import OpenvpnMgmt.Lib.Results
import OpenvpnMgmt.Status

/-!
Status tables of the formats V2 and V3. The separator is guessed from the lines; a wrong guess
can only happen when no row says anything. The columns of a client row are told from their
number, not from the header that names them.
-/
namespace MgmtStatusTables
open TextOps SeparatedRows Results MgmtValues MgmtStatus

theorem separatorTags_plain : ∀ tag ∈ separatorTags, ',' ∉ tag ∧ '\t' ∉ tag := by
  simp [separatorTags, lit_eq]

theorem rowV2V3_unknown {fields : List Text} (unknown : fields.head?.getD [] ∉ separatorTags)
    (sep : Char) (status : StatusResponse) : rowV2V3 sep status fields = .ok status := by
  simp only [separatorTags, List.mem_cons, List.not_mem_nil, or_false, not_or] at unknown
  simp [rowV2V3, unknown]

/-! The separator -/

def ShowsTab (line : Text) : Prop := ∃ tag ∈ separatorTags, tag ++ ['\t'] <+: line

theorem detectSeparator_tab {lines : List Text} (shown : ∃ line ∈ lines, ShowsTab line) :
    detectSeparator lines = '\t' := by
  obtain ⟨line, member, tag, known, start⟩ := shown
  rw [detectSeparator, if_pos]
  simp only [List.any_eq_true, List.isPrefixOf_iff_prefix]
  exact ⟨line, member, tag, known, start⟩

theorem detectSeparator_comma {lines : List Text} (hidden : ∀ line ∈ lines, ¬ ShowsTab line) :
    detectSeparator lines = ',' := by
  rw [detectSeparator, if_neg]
  simp only [List.any_eq_true, List.isPrefixOf_iff_prefix]
  rintro ⟨line, member, tag, known, start⟩
  exact hidden line member ⟨tag, known, start⟩

theorem showsTab_join {sep : Char} {head : Text} {cols : List Text} (kind : sep = ',' ∨ sep = '\t')
    (free : '\t' ∉ head) :
    ShowsTab (join sep (head :: cols)) ↔ sep = '\t' ∧ head ∈ separatorTags ∧ cols ≠ [] := by
  by_cases last : cols = []
  · subst last
    refine iff_of_false ?_ (by simp)
    rintro ⟨tag, -, start⟩
    rw [join_single] at start
    exact free (start.subset (by simp))
  · rw [join_cons last]
    constructor
    · rintro ⟨tag, known, start⟩
      have plain : sep ∉ tag := by
        rcases kind with rfl | rfl
        · exact (separatorTags_plain tag known).1
        · exact (separatorTags_plain tag known).2
      obtain ⟨same, tab⟩ := field_of_start plain free start
      exact ⟨tab.symm, same ▸ known, last⟩
    · rintro ⟨rfl, known, -⟩
      exact ⟨head, known, by simp⟩

theorem parse_joined {sep : Char} {rows : List (List Text)} (nonempty : ∀ row ∈ rows, row ≠ [])
    (free : ∀ row ∈ rows, ∀ field ∈ row, sep ∉ field) :
    parseStatusV2V3 (rows.map (join sep)) sep = rows.foldlM (rowV2V3 sep) StatusResponse.empty := by
  refine (foldlM_agree rows (fun row member status => ?_) _).symm
  rw [split_join (free row member) (nonempty row member)]

/-! One table, two separators -/

/-- A value with a separator inside says nothing. -/
theorem applyGlobalStat_separated {sep : Char} {value : Text} (kind : sep = ',' ∨ sep = '\t')
    (inside : sep ∈ value) (stats : GlobalStats) (key : Text) :
    applyGlobalStat stats key value = applyGlobalStat stats key [] := by
  have number : parseUInt 64 value = none := by
    rw [Option.eq_none_iff_forall_ne_some]
    intro n parsed
    have digit := parseUInt_digits parsed sep inside
    rcases kind with rfl | rfl <;> simp [Char.isDigit] at digit
  have flags : value ≠ lit "1" ∧ value ≠ lit "0" := by
    constructor <;> rintro rfl <;> rcases kind with rfl | rfl <;> simp [lit_eq] at inside
  have unread : parseUInt 64 [] = none := rfl
  have empty : [] ≠ lit "1" ∧ [] ≠ lit "0" := by simp [lit_eq]
  simp only [applyGlobalStat, number, flags, unread, empty, if_false]

theorem rowV2V3_separator (status : StatusResponse) (fields : List Text) :
    rowV2V3 ',' status fields = rowV2V3 '\t' status fields := by
  have stat (stats : GlobalStats) (key : Text) :
      applyGlobalStat stats key (join ',' (fields.drop 2)) =
        applyGlobalStat stats key (join '\t' (fields.drop 2)) := by
    by_cases several : 2 ≤ (fields.drop 2).length
    · rw [applyGlobalStat_separated (Or.inl rfl) (sep_mem_join several),
        applyGlobalStat_separated (Or.inr rfl) (sep_mem_join several)]
    · match fields.drop 2, several with
      | [], _ => rfl
      | [value], _ => simp
      | _ :: _ :: _, several => simp at several
  simp only [rowV2V3, stat]

/-- A tab-separated row that does not decide for the tab says as much as the line it makes. -/
theorem rowV2V3_hidden {head : Text} {cols : List Text}
    (free : ∀ field ∈ head :: cols, '\t' ∉ field)
    (hidden : ¬ ShowsTab (join '\t' (head :: cols))) (status : StatusResponse) :
    rowV2V3 ',' status (head :: cols) = rowV2V3 ',' status [join '\t' (head :: cols)] := by
  rw [showsTab_join (Or.inr rfl) (free head (by simp))] at hidden
  by_cases single : cols = []
  · rw [single, join_single]
  · have unknown : head ∉ separatorTags := fun known => hidden ⟨rfl, known, single⟩
    have other : join '\t' (head :: cols) ∉ separatorTags := by
      intro known
      have tab : '\t' ∈ join '\t' (head :: cols) := by
        rw [join_cons single]
        simp
      exact (separatorTags_plain _ known).2 tab
    rw [rowV2V3_unknown (by simpa using unknown), rowV2V3_unknown (by simpa using other)]

def SeparatorFree (rows : List (List Text)) : Prop :=
  ∀ row ∈ rows, ∀ field ∈ row, ',' ∉ field ∧ '\t' ∉ field

/-- The guess is wrong only for a table without a known tag in front of a tab; then every line
    is a row of one field, and says what the row says. -/
theorem parse_separators {rows : List (List Text)} (nonempty : ∀ row ∈ rows, row ≠ [])
    (free : SeparatorFree rows) :
    parseStatusV2V3 (rows.map (join ',')) (detectSeparator (rows.map (join ','))) =
      parseStatusV2V3 (rows.map (join '\t')) (detectSeparator (rows.map (join '\t'))) := by
  have commas : ∀ row ∈ rows, ∀ field ∈ row, ',' ∉ field :=
    fun row member field among => (free row member field among).1
  have tabs : ∀ row ∈ rows, ∀ field ∈ row, '\t' ∉ field :=
    fun row member field among => (free row member field among).2
  have comma : detectSeparator (rows.map (join ',')) = ',' := by
    refine detectSeparator_comma fun line member => ?_
    obtain ⟨row, among, rfl⟩ := List.mem_map.mp member
    obtain ⟨head, cols, rfl⟩ := List.exists_cons_of_ne_nil (nonempty row among)
    rw [showsTab_join (Or.inl rfl) (tabs _ among head (by simp))]
    simp
  rw [comma, parse_joined nonempty commas]
  by_cases shown : ∃ line ∈ rows.map (join '\t'), ShowsTab line
  · rw [detectSeparator_tab shown, parse_joined nonempty tabs]
    simpa using foldlM_agree rows (f := id)
      (fun row _ status => rowV2V3_separator status row) StatusResponse.empty
  · have hidden : ∀ line ∈ rows.map (join '\t'), ¬ ShowsTab line :=
      fun line member shows => shown ⟨line, member, shows⟩
    rw [detectSeparator_comma hidden]
    refine foldlM_agree rows (fun row member status => ?_) _
    obtain ⟨head, cols, rfl⟩ := List.exists_cons_of_ne_nil (nonempty row member)
    have plain : ',' ∉ join '\t' (head :: cols) := by
      intro inside
      rcases mem_join inside with other | ⟨field, among, bad⟩
      · exact absurd other (by decide)
      · exact commas _ member field among bad
    rw [split_plain plain]
    exact rowV2V3_hidden (tabs _ member) (hidden _ (List.mem_map_of_mem member)) status

/- A row without fields makes the same line as one empty field. -/
def asLine (row : List Text) : List Text := if row = [] then [[]] else row

theorem join_asLine (sep : Char) (row : List Text) : join sep (asLine row) = join sep row := by
  unfold asLine
  split
  · simp [*]
  · rfl

theorem map_asLine (sep : Char) (rows : List (List Text)) :
    (rows.map asLine).map (join sep) = rows.map (join sep) := by
  rw [List.map_map]
  exact List.map_congr_left fun row _ => join_asLine sep row

theorem parseStatus_rows {sep : Char} {rows : List (List Text)} (kind : sep = ',' ∨ sep = '\t')
    (table : rows.head? ≠ some [lit "OpenVPN CLIENT LIST"]) :
    parseStatus (rows.map (join sep)) =
      parseStatusV2V3 (rows.map (join sep)) (detectSeparator (rows.map (join sep))) := by
  rw [parseStatus, if_neg]
  cases rows with
  | nil => simp
  | cons row more =>
    intro first
    have line : join sep row = lit "OpenVPN CLIENT LIST" := by simpa using first
    match row with
    | [] => simp [lit_eq] at line
    | [field] =>
      rw [join_single] at line
      exact table (by simp [line])
    | head :: second :: cols =>
      have inside : sep ∈ lit "OpenVPN CLIENT LIST" := line ▸ sep_mem_join (by simp)
      rcases kind with rfl | rfl <;> simp [lit_eq] at inside

theorem status_v2_v3_agree (rows : List (List Text)) (free : SeparatorFree rows)
    (table : rows.head? ≠ some [lit "OpenVPN CLIENT LIST"]) :
    parseStatus (rows.map (join ',')) = parseStatus (rows.map (join '\t')) := by
  rw [parseStatus_rows (Or.inl rfl) table, parseStatus_rows (Or.inr rfl) table,
    ← map_asLine ',', ← map_asLine '\t']
  refine parse_separators ?_ ?_
  · intro row member
    obtain ⟨original, -, rfl⟩ := List.mem_map.mp member
    unfold asLine
    split <;> simp [*]
  · intro row member field among
    obtain ⟨original, inside, rfl⟩ := List.mem_map.mp member
    unfold asLine at among
    split at among
    · simp_all
    · exact free original inside field among

theorem status_v2_v3_agree_short_rows :
    parseStatus ([[lit "TITLE"], [lit "NOTE", lit "x"], [lit "GLOBAL_STATS", lit "dco_enabled",
        lit "1", lit "0"], [lit "CLIENT_LIST", lit "cn"]].map (join ',')) =
      parseStatus ([[lit "TITLE"], [lit "NOTE", lit "x"], [lit "GLOBAL_STATS", lit "dco_enabled",
        lit "1", lit "0"], [lit "CLIENT_LIST", lit "cn"]].map (join '\t')) :=
  status_v2_v3_agree _ (by simp [SeparatorFree, lit_eq]) (by simp)

/-! Client rows and their header -/

def modernColumns : List Text :=
  [lit "Common Name", lit "Real Address", lit "Virtual Address", lit "Virtual IPv6 Address",
    lit "Bytes Received", lit "Bytes Sent", lit "Connected Since", lit "Connected Since (time_t)",
    lit "Username", lit "Client ID", lit "Peer ID", lit "Data Channel Cipher"]

def column (names cols : List Text) (name : String) : Option Text :=
  (names.zip cols).lookup (lit name)

/- The client a row stands for, every field read under the name it has in the header. -/
def clientByHeader (names cols : List Text) : Option ConnectedClient := do
  let bytesIn ← (column names cols "Bytes Received").bind (parseUInt 64)
  let bytesOut ← (column names cols "Bytes Sent").bind (parseUInt 64)
  return {
    commonName := (column names cols "Common Name").getD []
    realAddress := (column names cols "Real Address").getD []
    virtualAddress := (column names cols "Virtual Address").getD []
    virtualIpv6 := (column names cols "Virtual IPv6 Address").getD []
    bytesIn, bytesOut
    connectedSince := (column names cols "Connected Since").getD []
    connectedSinceT := (column names cols "Connected Since (time_t)").bind parseOptionalTimestamp
    username := (column names cols "Username").bind parseOptionalString
    cid := (column names cols "Client ID").bind parseOptionalU64
    peerId := (column names cols "Peer ID").bind parseOptionalU64
    cipher := (column names cols "Data Channel Cipher").bind parseOptionalString }

theorem modernColumns_nodup : modernColumns.Nodup := by
  simp [modernColumns]

section Columns
variable {names cols : List Text}

/- A header that leaves out trailing columns, and a row that follows it. -/
structure Follows (names cols : List Text) : Prop where
  shortened : names <+: modernColumns
  width : cols.length = names.length

theorem column_at (follows : Follows names cols) {i : Nat} {name : String}
    (here : modernColumns[i]? = some (lit name)) : column names cols name = cols[i]? :=
  lookup_zip follows.shortened modernColumns_nodup follows.width here

theorem clientByHeader_eq (follows : Follows names cols) :
    clientByHeader names cols = do
      let bytesIn ← cols[4]?.bind (parseUInt 64)
      let bytesOut ← cols[5]?.bind (parseUInt 64)
      return {
        commonName := cols[0]?.getD [], realAddress := cols[1]?.getD []
        virtualAddress := cols[2]?.getD [], virtualIpv6 := cols[3]?.getD []
        bytesIn, bytesOut
        connectedSince := cols[6]?.getD []
        connectedSinceT := cols[7]?.bind parseOptionalTimestamp
        username := cols[8]?.bind parseOptionalString
        cid := cols[9]?.bind parseOptionalU64
        peerId := cols[10]?.bind parseOptionalU64
        cipher := cols[11]?.bind parseOptionalString } := by
  have at_ {i : Nat} {name : String} (here : modernColumns[i]? = some (lit name)) :
      column names cols name = cols[i]? := column_at follows here
  rw [clientByHeader, at_ (i := 0) rfl, at_ (i := 1) rfl, at_ (i := 2) rfl, at_ (i := 3) rfl,
    at_ (i := 4) rfl, at_ (i := 5) rfl, at_ (i := 6) rfl, at_ (i := 7) rfl, at_ (i := 8) rfl,
    at_ (i := 9) rfl, at_ (i := 10) rfl, at_ (i := 11) rfl]

theorem parseU64_toOption (o : Option Text) (field : String) :
    (parseU64 (o.getD []) field).toOption = o.bind (parseUInt 64) := by
  cases o with
  | none => rfl
  | some s =>
    simp only [parseU64, Option.getD_some, Option.bind_some]
    split <;> simp [*, Except.toOption]

theorem modernClient_by_header (follows : Follows names cols) :
    (modernClient cols).toOption = clientByHeader names cols := by
  have time : parseOptionalTimestamp (cols[7]?.getD []) = cols[7]?.bind parseOptionalTimestamp := by
    cases cols[7]? <;> rfl
  rw [clientByHeader_eq follows]
  simp only [modernClient, List.getD_eq_getElem?_getD, toOption_bind, parseU64_toOption, time]
  rfl

/-- The older layout leaves the IPv6 column out, and reads a counter from its place. -/
theorem olderClient_result {client : ConnectedClient} (read : olderClient cols = .ok client) :
    client.virtualIpv6 = [] ∧ cols[3]?.getD [] ≠ [] := by
  obtain ⟨bytesIn, counter, read⟩ := bind_eq_ok.mp read
  obtain ⟨bytesOut, -, read⟩ := bind_eq_ok.mp read
  cases read
  refine ⟨rfl, ?_⟩
  intro empty
  rw [List.getD_eq_getElem?_getD, empty] at counter
  cases counter

theorem clientRow_by_header (follows : Follows names cols) (six : 6 ≤ names.length)
    (numeric : (clientByHeader names cols).isSome) :
    (clientRow cols).toOption = clientByHeader names cols ↔ names.length = 12 := by
  have most : names.length ≤ 12 := follows.shortened.length_le
  have width := follows.width
  constructor
  · intro same
    by_contra shorter
    obtain ⟨client, shown⟩ := Option.isSome_iff_exists.mp numeric
    have layout : clientRow cols = olderClient cols := by
      rw [clientRow, if_neg (by omega), if_neg (by omega)]
    rw [shown, layout, toOption_eq_some] at same
    obtain ⟨noIpv6, counter⟩ := olderClient_result same
    rw [clientByHeader_eq follows] at shown
    simp only [Option.bind_eq_bind, Option.bind_eq_some_iff, Option.pure_def,
      Option.some.injEq] at shown
    obtain ⟨bytesIn, -, bytesOut, -, rfl⟩ := shown
    exact counter noIpv6
  · intro full
    rw [clientRow, if_pos (by omega)]
    exact modernClient_by_header follows

end Columns

/-! Whole tables -/

def clientRows (rows : List (List Text)) : List (List Text) :=
  rows.filterMap fun row => if row.head? = some (lit "CLIENT_LIST") then some row.tail else none

theorem mem_clientRows {rows : List (List Text)} {cols : List Text} :
    cols ∈ clientRows rows ↔ lit "CLIENT_LIST" :: cols ∈ rows := by
  simp only [clientRows, List.mem_filterMap, Option.ite_none_right_eq_some, Option.some.injEq]
  constructor
  · rintro ⟨row, member, tag, rfl⟩
    rwa [← List.cons_head?_tail tag] at member
  · intro member
    exact ⟨_, member, rfl, rfl⟩

def readClients (rows : List (List Text)) : List (Option ConnectedClient) :=
  (clientRows rows).map fun cols => (clientRow cols).toOption

theorem readClients_cons (row : List Text) (more : List (List Text)) :
    readClients (row :: more) = readClients [row] ++ readClients more := by
  simp only [readClients, clientRows, List.filterMap_cons, List.filterMap_nil]
  split <;> rfl

theorem rowV2V3_clients {sep : Char} {status after : StatusResponse} {row : List Text}
    (read : rowV2V3 sep status row = .ok after) :
    after.clients.map some = status.clients.map some ++ readClients [row] := by
  by_cases client : row.head? = some (lit "CLIENT_LIST")
  · have tag : row.head?.getD [] = lit "CLIENT_LIST" := by rw [client]; rfl
    simp only [rowV2V3, tag, lit_inj, String.reduceEq, if_false, if_true] at read
    obtain ⟨one, accepted, read⟩ := bind_eq_ok.mp read
    cases read
    rw [List.drop_one] at accepted
    simp [readClients, clientRows, client, accepted, Except.toOption]
  · have other : row.head?.getD [] ≠ lit "CLIENT_LIST" := by
      intro tag
      cases row with
      | nil => simp [lit_eq] at tag
      | cons head cols => exact client (by simpa using tag)
    have nothing : readClients [row] = [] := by simp [readClients, clientRows, client]
    have kept : after.clients = status.clients := by
      simp only [rowV2V3, other, if_false] at read
      split_ifs at read with title time header route stat
      · cases read; rfl
      · cases read; rfl
      · cases read; rfl
      · obtain ⟨entry, -, read⟩ := bind_eq_ok.mp read
        cases read
        rfl
      · cases read; rfl
      · cases read; rfl
    rw [kept, nothing, List.append_nil]

theorem rows_clients {sep : Char} {rows : List (List Text)} {status after : StatusResponse}
    (read : rows.foldlM (rowV2V3 sep) status = .ok after) :
    after.clients.map some = status.clients.map some ++ readClients rows := by
  induction rows generalizing status with
  | nil =>
    cases read
    simp [readClients, clientRows]
  | cons row more ih =>
    rw [List.foldlM_cons] at read
    obtain ⟨between, first, rest⟩ := bind_eq_ok.mp read
    rw [ih rest, rowV2V3_clients first, readClients_cons row more, List.append_assoc]

def Acceptable (row : List Text) : Prop :=
  ∀ cols, (row = lit "CLIENT_LIST" :: cols → ∃ client, clientRow cols = .ok client) ∧
    (row = lit "ROUTING_TABLE" :: cols → 4 ≤ cols.length)

theorem rowV2V3_accepts {row : List Text} (acceptable : Acceptable row) (sep : Char)
    (status : StatusResponse) : ∃ after, rowV2V3 sep status row = .ok after := by
  have shape {word : String} (tag : row.head?.getD [] = lit word) (nonempty : lit word ≠ []) :
      row = lit word :: row.drop 1 := by
    cases row with
    | nil => exact absurd tag.symm nonempty
    | cons head cols => rw [← show head = lit word from tag]; rfl
  simp only [rowV2V3]
  split_ifs with title time header client route stat
  · exact ⟨_, rfl⟩
  · exact ⟨_, rfl⟩
  · exact ⟨_, rfl⟩
  · obtain ⟨one, accepted⟩ := (acceptable _).1 (shape client (by simp [lit_eq]))
    rw [accepted]
    exact ⟨_, rfl⟩
  · have wide := (acceptable _).2 (shape route (by simp [lit_eq]))
    rw [routeRow, if_neg (by omega)]
    exact ⟨_, rfl⟩
  · exact ⟨_, rfl⟩
  · exact ⟨_, rfl⟩

theorem rows_accept {rows : List (List Text)} (acceptable : ∀ row ∈ rows, Acceptable row)
    (sep : Char) (status : StatusResponse) :
    ∃ after, rows.foldlM (rowV2V3 sep) status = .ok after := by
  induction rows generalizing status with
  | nil => exact ⟨status, rfl⟩
  | cons row more ih =>
    obtain ⟨between, first⟩ := rowV2V3_accepts (acceptable row (by simp)) sep status
    obtain ⟨after, rest⟩ := ih (fun r member => acceptable r (by simp [member])) between
    exact ⟨after, by rw [List.foldlM_cons, first]; exact rest⟩

/-- A table of a format with tags, whose header names the columns of the client rows and may
    leave out trailing ones. -/
structure TableWithHeader (sep : Char) (names : List Text) (rows : List (List Text)) : Prop where
  separator : sep = ',' ∨ sep = '\t'
  free : ∀ row ∈ rows, ∀ field ∈ row, sep ∉ field
  tagged : ∀ row ∈ rows, ∃ tag cols, row = tag :: cols ∧ '\t' ∉ tag
  table : rows.head? ≠ some [lit "OpenVPN CLIENT LIST"]
  header : lit "HEADER" :: lit "CLIENT_LIST" :: names ∈ rows
  shortened : names <+: modernColumns
  atLeastSix : 6 ≤ names.length
  width : ∀ cols, lit "CLIENT_LIST" :: cols ∈ rows → cols.length = names.length
  numeric : ∀ cols, lit "CLIENT_LIST" :: cols ∈ rows → ∀ name ∈ ["Bytes Received", "Bytes Sent"],
    ((column names cols name).bind (parseUInt 64)).isSome
  routes : ∀ cols, lit "ROUTING_TABLE" :: cols ∈ rows → 4 ≤ cols.length

/- The table is accepted, and every client is the one its row stands for under the header. -/
def ReadByHeader (sep : Char) (names : List Text) (rows : List (List Text)) : Prop :=
  ∃ status, parseStatus (rows.map (join sep)) = .ok status ∧
    status.clients.map some = (clientRows rows).map (clientByHeader names)

section Tables
variable {sep : Char} {names : List Text} {rows : List (List Text)}

theorem parse_table (given : TableWithHeader sep names rows) :
    parseStatus (rows.map (join sep)) = rows.foldlM (rowV2V3 sep) StatusResponse.empty := by
  have nonempty : ∀ row ∈ rows, row ≠ [] := by
    intro row member
    obtain ⟨tag, cols, rfl, -⟩ := given.tagged row member
    simp
  have guess : detectSeparator (rows.map (join sep)) = sep := by
    rcases given.separator with rfl | rfl
    · refine detectSeparator_comma fun line member => ?_
      obtain ⟨row, among, rfl⟩ := List.mem_map.mp member
      obtain ⟨tag, cols, rfl, noTab⟩ := given.tagged row among
      rw [showsTab_join (Or.inl rfl) noTab]
      simp
    · refine detectSeparator_tab ⟨_, List.mem_map_of_mem given.header, ?_⟩
      rw [showsTab_join (Or.inr rfl) (by simp [lit_eq])]
      exact ⟨rfl, by simp [separatorTags], by simp⟩
  rw [parseStatus_rows given.separator given.table, guess, parse_joined nonempty given.free]

theorem clientByHeader_isSome (given : TableWithHeader sep names rows) {cols : List Text}
    (member : lit "CLIENT_LIST" :: cols ∈ rows) : (clientByHeader names cols).isSome := by
  obtain ⟨bytesIn, first⟩ := Option.isSome_iff_exists.mp
    (given.numeric cols member "Bytes Received" (by simp))
  obtain ⟨bytesOut, second⟩ := Option.isSome_iff_exists.mp
    (given.numeric cols member "Bytes Sent" (by simp))
  simp [clientByHeader, first, second]

theorem readByHeader_iff_rows (given : TableWithHeader sep names rows) :
    ReadByHeader sep names rows ↔
      ∀ cols ∈ clientRows rows, (clientRow cols).toOption = clientByHeader names cols := by
  constructor
  · rintro ⟨status, read, clients⟩
    rw [parse_table given] at read
    have found := rows_clients read
    rw [clients, readClients] at found
    exact List.map_inj_left.mp (by simpa [StatusResponse.empty] using found.symm)
  · intro same
    have acceptable : ∀ row ∈ rows, Acceptable row := by
      intro row member cols
      constructor
      · rintro rfl
        have client := clientByHeader_isSome given member
        rw [← same cols (mem_clientRows.mpr member)] at client
        obtain ⟨one, read⟩ := Option.isSome_iff_exists.mp client
        exact ⟨one, toOption_eq_some.mp read⟩
      · rintro rfl
        exact given.routes cols member
    obtain ⟨status, read⟩ := rows_accept acceptable sep StatusResponse.empty
    refine ⟨status, (parse_table given).trans read, ?_⟩
    have found := rows_clients read
    rw [readClients, List.map_congr_left same] at found
    simpa [StatusResponse.empty] using found

/-- The layout follows the number of columns, so only the full header is read as it says. -/
theorem read_by_header_iff (given : TableWithHeader sep names rows) :
    ReadByHeader sep names rows ↔ names.length = 12 ∨ clientRows rows = [] := by
  rw [readByHeader_iff_rows given]
  have each : ∀ cols ∈ clientRows rows,
      ((clientRow cols).toOption = clientByHeader names cols ↔ names.length = 12) := by
    intro cols member
    have row := mem_clientRows.mp member
    exact clientRow_by_header ⟨given.shortened, given.width cols row⟩ given.atLeastSix
      (clientByHeader_isSome given row)
  constructor
  · intro all
    cases found : clientRows rows with
    | nil => exact Or.inr rfl
    | cons cols more =>
      have member : cols ∈ clientRows rows := by simp [found]
      exact Or.inl ((each cols member).mp (all cols member))
  · rintro (full | empty) cols member
    · exact (each cols member).mpr full
    · rw [empty] at member
      cases member

end Tables

def sampleColumns : List Text :=
  [lit "client1", lit "203.0.113.10:52841", lit "10.8.0.6", [], lit "1548576", lit "984320",
    lit "2024-03-21 09:15:00", lit "1711012500", lit "UNDEF", lit "0", lit "0", lit "AES-256-GCM"]

def sampleTable (n : Nat) : List (List Text) :=
  [[lit "TITLE", lit "OpenVPN"], lit "HEADER" :: lit "CLIENT_LIST" :: modernColumns.take n,
    lit "CLIENT_LIST" :: sampleColumns.take n]

theorem sampleTable_header {n : Nat} (six : 6 ≤ n) :
    TableWithHeader ',' (modernColumns.take n) (sampleTable n) := by
  have names : ∀ field ∈ modernColumns, ',' ∉ field := by simp [modernColumns, lit_eq]
  have values : ∀ field ∈ sampleColumns, ',' ∉ field := by simp [sampleColumns, lit_eq]
  have width : (sampleColumns.take n).length = (modernColumns.take n).length := by
    simp [sampleColumns, modernColumns]
  have follows : Follows (modernColumns.take n) (sampleColumns.take n) :=
    ⟨List.take_prefix n modernColumns, width⟩
  have row {cols : List Text} (member : lit "CLIENT_LIST" :: cols ∈ sampleTable n) :
      cols = sampleColumns.take n := by
    simpa [sampleTable] using member
  refine ⟨Or.inl rfl, ?_, ?_, by simp [sampleTable], by simp [sampleTable],
    List.take_prefix n modernColumns, ?_, ?_, ?_, by simp [sampleTable]⟩
  · intro row member field among
    simp only [sampleTable, List.mem_cons, List.not_mem_nil, or_false] at member
    rcases member with rfl | rfl | rfl
    · simp only [List.mem_cons, List.not_mem_nil, or_false] at among
      rcases among with rfl | rfl <;> simp [lit_eq]
    · simp only [List.mem_cons] at among
      rcases among with rfl | rfl | among
      · simp [lit_eq]
      · simp [lit_eq]
      · exact names field (List.mem_of_mem_take among)
    · rcases List.mem_cons.mp among with rfl | among
      · simp [lit_eq]
      · exact values field (List.mem_of_mem_take among)
  · simp [sampleTable, lit_eq]
  · simp only [List.length_take, modernColumns, List.length_cons, List.length_nil]
    omega
  · intro cols member
    rw [row member, width]
  · intro cols member name counter
    rw [row member]
    simp only [List.mem_cons, List.not_mem_nil, or_false] at counter
    rcases counter with rfl | rfl
    · rw [column_at follows (i := 4) rfl, List.getElem?_take_of_lt (by omega)]
      decide +kernel
    · rw [column_at follows (i := 5) rfl, List.getElem?_take_of_lt (by omega)]
      decide +kernel

theorem read_by_header_full : ReadByHeader ',' (modernColumns.take 12) (sampleTable 12) :=
  (read_by_header_iff (sampleTable_header (by decide))).mpr (Or.inl rfl)

/-- Without the cipher column the IPv6 column is read as a counter. -/
theorem eleven_columns_rejected :
    TableWithHeader ',' (modernColumns.take 11) (sampleTable 11) ∧
      parseStatus ((sampleTable 11).map (join ',')) =
        .error (.invalidInteger (lit "bytes_received") []) ∧
      ¬ ReadByHeader ',' (modernColumns.take 11) (sampleTable 11) := by
  have rejected : parseStatus ((sampleTable 11).map (join ',')) =
      .error (.invalidInteger (lit "bytes_received") []) := by decide +kernel
  refine ⟨sampleTable_header (by decide), rejected, ?_⟩
  rintro ⟨status, read, -⟩
  rw [rejected] at read
  cases read

end MgmtStatusTables
