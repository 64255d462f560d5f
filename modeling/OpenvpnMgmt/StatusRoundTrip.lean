import OpenvpnMgmt.StatusTables

/-!
Statuses of the formats V2 and V3, written and read. The table of a status has a row for everything
it holds, clients with all twelve columns. It is read back exactly if the status can stand in such a
table, and whatever is read from one can.
-/
namespace MgmtStatusRoundTrip
open TextOps SeparatedRows Results MgmtValues MgmtStatus MgmtStatusTables

/-! The table of a status -/

def timeText (time : Option UtcTimestamp) : Text := (time.map fun t => display t.seconds).getD []

def idText (id : Option U64) : Text := (id.map display).getD []

def clientColumns (c : ConnectedClient) : List Text :=
  [c.commonName, c.realAddress, c.virtualAddress, c.virtualIpv6, display c.bytesIn,
    display c.bytesOut, c.connectedSince, timeText c.connectedSinceT, c.username.getD [],
    idText c.cid, idText c.peerId, c.cipher.getD []]

def routeColumns (r : RoutingEntry) : List Text :=
  [r.virtualAddress, r.commonName, r.realAddress, r.lastRef, timeText r.lastRefT]

def routeHeader : List Text :=
  [lit "Virtual Address", lit "Common Name", lit "Real Address", lit "Last Ref",
    lit "Last Ref (time_t)"]

def statRow (key : String) (value : Text) : List Text := [lit "GLOBAL_STATS", lit key, value]

def statRows (stats : GlobalStats) : List (List Text) :=
  (stats.maxBcastMcastQueueLength.map fun n =>
    statRow "Max bcast/mcast queue length" (display n)).toList ++
  (stats.dcoEnabled.map fun on => statRow "dco_enabled" (if on then lit "1" else lit "0")).toList

def statusRows (r : StatusResponse) : List (List Text) :=
  (r.title.map fun title => [lit "TITLE", title]).toList ++
  (r.updated.map fun updated => [lit "TIME", updated, timeText r.timestamp]).toList ++
  (lit "HEADER" :: lit "CLIENT_LIST" :: modernColumns) ::
  (r.clients.map fun c => lit "CLIENT_LIST" :: clientColumns c) ++
  (lit "HEADER" :: lit "ROUTING_TABLE" :: routeHeader) ::
  (r.routes.map fun route => lit "ROUTING_TABLE" :: routeColumns route) ++
  statRows r.globalStats

/-! What can stand in it -/

/- An optional text of the table: empty and `UNDEF` stand for none. -/
def Optional (sep : Char) (t : Option Text) : Prop :=
  ∀ text, t = some text → text ≠ [] ∧ text ≠ lit "UNDEF" ∧ sep ∉ text

structure WritableClient (sep : Char) (c : ConnectedClient) : Prop where
  commonName : sep ∉ c.commonName
  realAddress : sep ∉ c.realAddress
  virtualAddress : sep ∉ c.virtualAddress
  virtualIpv6 : sep ∉ c.virtualIpv6
  connectedSince : sep ∉ c.connectedSince
  username : Optional sep c.username
  cipher : Optional sep c.cipher

structure WritableRoute (sep : Char) (r : RoutingEntry) : Prop where
  virtualAddress : sep ∉ r.virtualAddress
  commonName : sep ∉ r.commonName
  realAddress : sep ∉ r.realAddress
  lastRef : sep ∉ r.lastRef

/-- No text of the status holds the separator, no optional text says that it is missing, and the
    time stands in the row of the date. -/
structure Writable (sep : Char) (r : StatusResponse) : Prop where
  title : ∀ title, r.title = some title → sep ∉ title
  updated : ∀ updated, r.updated = some updated → sep ∉ updated
  dated : r.updated = none → r.timestamp = none
  clients : ∀ c ∈ r.clients, WritableClient sep c
  routes : ∀ route ∈ r.routes, WritableRoute sep route

/-! A row that is read -/

section Reading
variable {sep : Char}

theorem field_free {fields : List Text} (free : ∀ field ∈ fields, sep ∉ field) (i : Nat) :
    sep ∉ fields.getD i [] := by
  rw [List.getD_eq_getElem?_getD]
  cases found : fields[i]? with
  | none => simp
  | some field => exact free field (List.mem_of_getElem? found)

theorem optional_free {fields : List Text} (free : ∀ field ∈ fields, sep ∉ field) (i : Nat) :
    Optional sep (fields[i]?.bind parseOptionalString) := by
  intro text read
  obtain ⟨field, found, read⟩ := Option.bind_eq_some_iff.mp read
  rw [parseOptionalString] at read
  split at read
  · cases read
  · rename_i given
    cases read
    rw [not_or] at given
    exact ⟨given.1, given.2, free text (List.mem_of_getElem? found)⟩

theorem clientRow_writable {cols : List Text} (free : ∀ col ∈ cols, sep ∉ col)
    {client : ConnectedClient} (read : clientRow cols = .ok client) :
    WritableClient sep client := by
  rw [clientRow] at read
  split at read
  · obtain ⟨_, -, read⟩ := bind_eq_ok.mp read
    obtain ⟨_, -, read⟩ := bind_eq_ok.mp read
    cases read
    exact ⟨field_free free 0, field_free free 1, field_free free 2, field_free free 3,
      field_free free 6, optional_free free 8, optional_free free 11⟩
  · split at read
    · cases read
    · obtain ⟨_, -, read⟩ := bind_eq_ok.mp read
      obtain ⟨_, -, read⟩ := bind_eq_ok.mp read
      cases read
      have since := field_free free 5
      rw [List.getD_eq_getElem?_getD] at since
      exact ⟨field_free free 0, field_free free 1, field_free free 2, by simp, since,
        optional_free free 7, by rintro _ ⟨⟩⟩

theorem routeRow_writable {cols : List Text} (free : ∀ col ∈ cols, sep ∉ col)
    {route : RoutingEntry} (read : routeRow cols = .ok route) : WritableRoute sep route := by
  rw [routeRow] at read
  split at read
  · cases read
  · cases read
    exact ⟨field_free free 0, field_free free 1, field_free free 2, field_free free 3⟩

theorem rowV2V3_writable {fields : List Text} (free : ∀ field ∈ fields, sep ∉ field)
    {status after : StatusResponse} (writable : Writable sep status)
    (read : rowV2V3 sep status fields = .ok after) : Writable sep after := by
  have cols : ∀ col ∈ fields.drop 1, sep ∉ col := fun col member =>
    free col (List.mem_of_mem_drop member)
  simp only [rowV2V3] at read
  split_ifs at read
  · cases read
    exact { writable with
      title := fun title found => free title (List.mem_of_getElem? found) }
  · cases read
    refine { writable with
      updated := fun updated found => free updated (List.mem_of_getElem? found), dated := ?_ }
    intro missing
    have short := List.getElem?_eq_none_iff.mp missing
    have shorter : fields[2]? = none := List.getElem?_eq_none_iff.mpr (by omega)
    simp [shorter]
  · cases read
    exact writable
  · obtain ⟨client, row, read⟩ := bind_eq_ok.mp read
    cases read
    refine { writable with clients := ?_ }
    intro c member
    rcases List.mem_append.mp member with earlier | last
    · exact writable.clients c earlier
    · rw [List.mem_singleton.mp last]
      exact clientRow_writable cols row
  · obtain ⟨route, row, read⟩ := bind_eq_ok.mp read
    cases read
    refine { writable with routes := ?_ }
    intro r member
    rcases List.mem_append.mp member with earlier | last
    · exact writable.routes r earlier
    · rw [List.mem_singleton.mp last]
      exact routeRow_writable cols row
  · cases read
    exact { writable with }
  · cases read
    exact writable

theorem split_free (sep : Char) (line : Text) : ∀ field ∈ split sep line, sep ∉ field := by
  intro field member inside
  have free := (splitOnP_pieces line field member).1 sep inside
  simp at free

/-- Whatever a table holds, what is read from it can be written. -/
theorem parse_writable {lines : List Text} {status : StatusResponse}
    (read : parseStatusV2V3 lines sep = .ok status) : Writable sep status := by
  have start : Writable sep StatusResponse.empty :=
    ⟨by rintro _ ⟨⟩, by rintro _ ⟨⟩, fun _ => rfl, by rintro _ ⟨⟩, by rintro _ ⟨⟩⟩
  rw [parseStatusV2V3] at read
  generalize StatusResponse.empty = first at read start
  induction lines generalizing first with
  | nil =>
    cases read
    exact start
  | cons line more ih =>
    rw [List.foldlM_cons] at read
    obtain ⟨between, row, rest⟩ := bind_eq_ok.mp read
    exact ih between rest (rowV2V3_writable (split_free sep line) start row)

end Reading

/-! A row that is written -/

theorem timeText_read (time : Option UtcTimestamp) :
    parseOptionalTimestamp (timeText time) = time := by
  cases time with
  | none => rfl
  | some t =>
    have given : ¬ (display t.seconds = [] ∨ display t.seconds = lit "UNDEF") := by
      rw [not_or]
      refine ⟨display_ne_nil _, ?_⟩
      intro same
      have letter : 'U' ∈ display t.seconds := by simp [same, lit_eq]
      exact not_mem_display t.seconds (by decide) letter
    simp [parseOptionalTimestamp, parseOptionalU64, timeText, given, parseUInt_display]

theorem idText_read (id : Option U64) : parseOptionalU64 (idText id) = id := by
  cases id with
  | none => rfl
  | some n =>
    have time := timeText_read (some ⟨n⟩)
    simp only [timeText, parseOptionalTimestamp, Option.map_some, Option.getD_some,
      Option.map_eq_some_iff, UtcTimestamp.mk.injEq, exists_eq_right] at time
    exact time

theorem optional_read {sep : Char} {t : Option Text} (optional : Optional sep t) :
    parseOptionalString (t.getD []) = t := by
  cases t with
  | none => simp [parseOptionalString]
  | some text =>
    obtain ⟨nonempty, given, -⟩ := optional text rfl
    simp [parseOptionalString, nonempty, given]

theorem parseU64_display (n : U64) (field : String) : parseU64 (display n) field = .ok n := by
  simp [parseU64, parseUInt_display]

theorem clientRow_columns {sep : Char} {c : ConnectedClient} (writable : WritableClient sep c) :
    clientRow (clientColumns c) = .ok c := by
  have username := optional_read writable.username
  have cipher := optional_read writable.cipher
  have wide : 12 ≤ (clientColumns c).length := by simp [clientColumns]
  rw [clientRow, if_pos wide]
  simp [modernClient, clientColumns, parseU64_display, timeText_read, idText_read, username, cipher]
  rfl

theorem routeRow_columns (r : RoutingEntry) : routeRow (routeColumns r) = .ok r := by
  simp [routeRow, routeColumns, timeText_read]

theorem title_read (sep : Char) (title : Option Text) :
    (title.map fun title => [lit "TITLE", title]).toList.foldlM (rowV2V3 sep)
      StatusResponse.empty = .ok { StatusResponse.empty with title := title } := by
  cases title with
  | none => rfl
  | some title =>
    have row : rowV2V3 sep StatusResponse.empty [lit "TITLE", title] =
        .ok { StatusResponse.empty with title := some title } := by
      simp [rowV2V3]
    exact foldlM_cons_of_ok row []

theorem time_read (sep : Char) {updated : Option Text} {time : Option UtcTimestamp}
    (dated : updated = none → time = none) {status : StatusResponse}
    (fresh : status.updated = none ∧ status.timestamp = none) :
    (updated.map fun updated => [lit "TIME", updated, timeText time]).toList.foldlM
      (rowV2V3 sep) status = .ok { status with updated := updated, timestamp := time } := by
  cases updated with
  | none =>
    obtain ⟨_, _, _, _, _, _⟩ := status
    obtain ⟨rfl, rfl⟩ := fresh
    rw [dated rfl]
    rfl
  | some updated =>
    have row : rowV2V3 sep status [lit "TIME", updated, timeText time] =
        .ok { status with updated := some updated, timestamp := time } := by
      simp [rowV2V3, timeText_read]
    exact foldlM_cons_of_ok row []

theorem header_read (sep : Char) (status : StatusResponse) (cols : List Text) :
    rowV2V3 sep status (lit "HEADER" :: cols) = .ok status := by
  simp [rowV2V3]

theorem clients_read {sep : Char} {clients : List ConnectedClient}
    (writable : ∀ c ∈ clients, WritableClient sep c) (status : StatusResponse) :
    (clients.map fun c => lit "CLIENT_LIST" :: clientColumns c).foldlM (rowV2V3 sep) status =
      .ok { status with clients := status.clients ++ clients } := by
  induction clients generalizing status with
  | nil => simp; rfl
  | cons c more ih =>
    have row : rowV2V3 sep status (lit "CLIENT_LIST" :: clientColumns c) =
        .ok { status with clients := status.clients ++ [c] } := by
      simp [rowV2V3, clientRow_columns (writable c (by simp))]
    rw [List.map_cons, foldlM_cons_of_ok row, ih fun d member => writable d (by simp [member])]
    simp

theorem routes_read (sep : Char) (routes : List RoutingEntry) (status : StatusResponse) :
    (routes.map fun r => lit "ROUTING_TABLE" :: routeColumns r).foldlM (rowV2V3 sep) status =
      .ok { status with routes := status.routes ++ routes } := by
  induction routes generalizing status with
  | nil => simp; rfl
  | cons r more ih =>
    have row : rowV2V3 sep status (lit "ROUTING_TABLE" :: routeColumns r) =
        .ok { status with routes := status.routes ++ [r] } := by
      simp [rowV2V3, routeRow_columns]
    rw [List.map_cons, foldlM_cons_of_ok row, ih]
    simp

theorem stats_read (sep : Char) (stats : GlobalStats) {status : StatusResponse}
    (fresh : status.globalStats = ⟨none, none⟩) :
    (statRows stats).foldlM (rowV2V3 sep) status = .ok { status with globalStats := stats } := by
  have queue (status : StatusResponse) (n : U64) :
      rowV2V3 sep status (statRow "Max bcast/mcast queue length" (display n)) =
        .ok { status with globalStats :=
          { status.globalStats with maxBcastMcastQueueLength := some n } } := by
    simp [rowV2V3, statRow, applyGlobalStat, parseUInt_display]
  have dco (status : StatusResponse) (on : Bool) :
      rowV2V3 sep status (statRow "dco_enabled" (if on then lit "1" else lit "0")) =
        .ok { status with globalStats := { status.globalStats with dcoEnabled := some on } } := by
    cases on <;> simp [rowV2V3, statRow, applyGlobalStat]
  obtain ⟨length, enabled⟩ := stats
  cases length with
  | none =>
    cases enabled with
    | none =>
      obtain ⟨_, _, _, _, _, _⟩ := status
      cases fresh
      rfl
    | some on =>
      have last := foldlM_cons_of_ok (dco status on) []
      rw [fresh] at last
      exact last
  | some n =>
    have first := foldlM_cons_of_ok (queue status n)
    cases enabled with
    | none =>
      have last := first []
      rw [fresh] at last
      exact last
    | some on =>
      have last := (first [_]).trans (foldlM_cons_of_ok (dco _ on) [])
      rw [fresh] at last
      exact last

theorem rows_read {sep : Char} {r : StatusResponse} (writable : Writable sep r) :
    (statusRows r).foldlM (rowV2V3 sep) StatusResponse.empty = .ok r := by
  have title := title_read sep r.title
  have time := @time_read sep _ _ writable.dated { StatusResponse.empty with title := r.title }
    ⟨rfl, rfl⟩
  rw [statusRows]
  simp only [List.append_assoc, List.cons_append]
  rw [foldlM_append_of_ok title, foldlM_append_of_ok time,
    foldlM_cons_of_ok (header_read sep _ _), foldlM_append_of_ok (clients_read writable.clients _),
    foldlM_cons_of_ok (header_read sep _ _), foldlM_append_of_ok (routes_read sep r.routes _)]
  exact stats_read sep r.globalStats rfl

/-! The table as a whole -/

theorem rows_tagged {r : StatusResponse} : ∀ row ∈ statusRows r,
    ∃ tag ∈ separatorTags, ∃ cols, row = tag :: cols := by
  intro row member
  have known : ∀ word ∈ ["TITLE", "TIME", "HEADER", "CLIENT_LIST", "ROUTING_TABLE", "GLOBAL_STATS"],
      lit word ∈ separatorTags := by
    simp [separatorTags]
  simp only [statusRows, statRows, statRow, List.mem_append, List.mem_cons, List.mem_map,
    Option.mem_toList, Option.map_eq_some_iff] at member
  rcases member with ((((⟨_, -, rfl⟩ | ⟨_, -, rfl⟩) | rfl | ⟨_, -, rfl⟩) | rfl | ⟨_, -, rfl⟩) |
    ⟨_, -, rfl⟩ | ⟨_, -, rfl⟩)
  all_goals exact ⟨_, known _ (by simp), _, rfl⟩

section Whole
variable {sep : Char} (kind : sep = ',' ∨ sep = '\t')

include kind

theorem display_free {w : Nat} (n : BitVec w) : sep ∉ display n :=
  not_mem_display n (by rcases kind with rfl | rfl <;> decide)

theorem timeText_free (time : Option UtcTimestamp) : sep ∉ timeText time := by
  cases time with
  | none => simp [timeText]
  | some t => simpa [timeText] using display_free kind t.seconds

theorem idText_free (id : Option U64) : sep ∉ idText id := by
  cases id with
  | none => simp [idText]
  | some n => simpa [idText] using display_free kind n

omit kind in
theorem getD_free {t : Option Text} (optional : Optional sep t) : sep ∉ t.getD [] := by
  cases t with
  | none => simp
  | some text => exact (optional text rfl).2.2

theorem word_free : ∀ word ∈ [lit "TITLE", lit "TIME", lit "HEADER", lit "CLIENT_LIST",
    lit "ROUTING_TABLE", lit "GLOBAL_STATS", lit "Max bcast/mcast queue length",
    lit "dco_enabled", lit "1", lit "0"] ++ modernColumns ++ routeHeader, sep ∉ word := by
  rcases kind with rfl | rfl <;> decide +kernel

theorem clientColumns_free {c : ConnectedClient} (writable : WritableClient sep c) :
    ∀ col ∈ clientColumns c, sep ∉ col := by
  simp only [clientColumns, List.forall_mem_cons, List.not_mem_nil, false_imp_iff, implies_true,
    and_true]
  exact ⟨writable.commonName, writable.realAddress, writable.virtualAddress, writable.virtualIpv6,
    display_free kind _, display_free kind _, writable.connectedSince, timeText_free kind _,
    getD_free writable.username, idText_free kind _, idText_free kind _, getD_free writable.cipher⟩

theorem routeColumns_free {r : RoutingEntry} (writable : WritableRoute sep r) :
    ∀ col ∈ routeColumns r, sep ∉ col := by
  simp only [routeColumns, List.forall_mem_cons, List.not_mem_nil, false_imp_iff, implies_true,
    and_true]
  exact ⟨writable.virtualAddress, writable.commonName, writable.realAddress, writable.lastRef,
    timeText_free kind _⟩

theorem rows_free {r : StatusResponse} (writable : Writable sep r) :
    ∀ row ∈ statusRows r, ∀ field ∈ row, sep ∉ field := by
  have word := word_free kind
  intro row member
  simp only [statusRows, statRows, statRow, List.mem_append, List.mem_cons, List.mem_map,
    Option.mem_toList, Option.map_eq_some_iff] at member
  rcases member with ((((⟨title, given, rfl⟩ | ⟨updated, given, rfl⟩) | rfl | ⟨c, listed, rfl⟩) |
    rfl | ⟨route, listed, rfl⟩) | ⟨n, -, rfl⟩ | ⟨on, -, rfl⟩)
  · simp [word, writable.title title given]
  · simp [word, writable.updated updated given, timeText_free kind]
  · rw [List.forall_mem_cons, List.forall_mem_cons]
    exact ⟨word _ (by simp), word _ (by simp), fun col named => word col (by simp [named])⟩
  · rw [List.forall_mem_cons]
    exact ⟨word _ (by simp), clientColumns_free kind (writable.clients c listed)⟩
  · rw [List.forall_mem_cons, List.forall_mem_cons]
    exact ⟨word _ (by simp), word _ (by simp), fun col named => word col (by simp [named])⟩
  · rw [List.forall_mem_cons]
    exact ⟨word _ (by simp), routeColumns_free kind (writable.routes route listed)⟩
  · simp [word, display_free kind]
  · cases on <;> simp [word]

theorem table_detected (r : StatusResponse) :
    parseStatus ((statusRows r).map (join sep)) =
      parseStatusV2V3 ((statusRows r).map (join sep)) sep := by
  have heads : ∀ row ∈ statusRows r, ∃ tag ∈ separatorTags, ∃ cols, row = tag :: cols :=
    rows_tagged
  have table : (statusRows r).head? ≠ some [lit "OpenVPN CLIENT LIST"] := by
    intro first
    obtain ⟨tag, known, cols, same⟩ := heads _ (List.mem_of_head? first)
    cases same
    simp [separatorTags] at known
  have guess : detectSeparator ((statusRows r).map (join sep)) = sep := by
    rcases kind with rfl | rfl
    · apply detectSeparator_comma
      intro line member
      obtain ⟨row, among, rfl⟩ := List.mem_map.mp member
      obtain ⟨tag, known, cols, rfl⟩ := heads row among
      rw [showsTab_join (Or.inl rfl) (separatorTags_plain tag known).2]
      simp
    · apply detectSeparator_tab
      refine ⟨join '\t' (lit "HEADER" :: lit "CLIENT_LIST" :: modernColumns), ?_, ?_⟩
      · exact List.mem_map_of_mem (by simp [statusRows])
      · rw [showsTab_join (Or.inr rfl) (by simp [lit_eq])]
        exact ⟨rfl, by simp [separatorTags], by simp⟩
  rw [parseStatus_rows kind table, guess]

theorem written_read {r : StatusResponse} (writable : Writable sep r) :
    parseStatus ((statusRows r).map (join sep)) = .ok r := by
  have nonempty : ∀ row ∈ statusRows r, row ≠ [] := by
    intro row member
    obtain ⟨tag, -, cols, rfl⟩ := rows_tagged row member
    simp
  rw [table_detected kind, parse_joined nonempty (rows_free kind writable)]
  exact rows_read writable

end Whole

/-- A status comes back from its table, with commas or with tabs, exactly if no text in it holds the
    separator, no optional text is empty or `UNDEF`, and a time comes with a date. -/
theorem status_written_iff {sep : Char} (kind : sep = ',' ∨ sep = '\t') (r : StatusResponse) :
    parseStatus ((statusRows r).map (join sep)) = .ok r ↔ Writable sep r := by
  constructor
  · intro back
    rw [table_detected kind] at back
    exact parse_writable back
  · exact written_read kind

theorem status_written_iff_tabs :
    let r := { StatusResponse.empty with title := some (lit "a,b") }
    parseStatus ((statusRows r).map (join '\t')) = .ok r ↔ Writable '\t' r :=
  status_written_iff (Or.inr rfl) _

/-- Whatever table a status was read from, in an older layout or with rows of other kinds: its own
    table, with the separator that was found, reads as the same status. -/
theorem status_read_again {lines : List Text} {r : StatusResponse}
    (table : lines.head? ≠ some (lit "OpenVPN CLIENT LIST")) (read : parseStatus lines = .ok r) :
    parseStatus ((statusRows r).map (join (detectSeparator lines))) = .ok r := by
  have kind : detectSeparator lines = ',' ∨ detectSeparator lines = '\t' := by
    unfold detectSeparator
    split
    · exact Or.inr rfl
    · exact Or.inl rfl
  rw [parseStatus, if_neg table] at read
  exact written_read kind (parse_writable read)

def olderStatus : StatusResponse :=
  { StatusResponse.empty with
    title := some (lit "OpenVPN 2.3")
    clients := [⟨lit "cn", lit "203.0.113.10:52841", lit "10.8.0.6", [], 7, 9, lit "now", none,
      none, none, none, none⟩] }

theorem status_read_again_older :
    parseStatus ((statusRows olderStatus).map (join ',')) = .ok olderStatus := by
  have comma : detectSeparator [lit "TITLE,OpenVPN 2.3",
      lit "CLIENT_LIST,cn,203.0.113.10:52841,10.8.0.6,7,9,now,,UNDEF"] = ',' := by decide +kernel
  rw [← comma]
  exact status_read_again (by decide +kernel) (by decide +kernel)

end MgmtStatusRoundTrip
