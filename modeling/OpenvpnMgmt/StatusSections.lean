import OpenvpnMgmt.Lib.Results
import OpenvpnMgmt.Status

/-!
Status texts of the format V1. A line is compared with the markers before it is read as a row of
its section, and the names in a client row are chosen by the clients.
-/
namespace MgmtStatusSections
open TextOps SeparatedRows Results MgmtValues MgmtStatus

structure ClientV1 where
  commonName : Text
  realAddress : Text
  bytesIn : U64
  bytesOut : U64
  connectedSince : Text
  nameFree : ',' ∉ commonName
  addressFree : ',' ∉ realAddress

structure RouteV1 where
  virtualAddress : Text
  commonName : Text
  realAddress : Text
  lastRef : Text
  virtualFree : ',' ∉ virtualAddress
  nameFree : ',' ∉ commonName
  addressFree : ',' ∉ realAddress
  noHeading : virtualAddress ≠ lit "Virtual Address"
  noUpdate : virtualAddress ≠ lit "Updated"

def ClientV1.fields (c : ClientV1) : List Text :=
  [c.realAddress, display c.bytesIn, display c.bytesOut, c.connectedSince]

def ClientV1.line (c : ClientV1) : Text := join ',' (c.commonName :: c.fields)

def ClientV1.client (c : ClientV1) : ConnectedClient :=
  ⟨c.commonName, c.realAddress, [], [], c.bytesIn, c.bytesOut, c.connectedSince, none, none, none,
    none, none⟩

def RouteV1.line (r : RouteV1) : Text :=
  join ',' [r.virtualAddress, r.commonName, r.realAddress, r.lastRef]

def RouteV1.entry (r : RouteV1) : RoutingEntry :=
  ⟨r.virtualAddress, r.commonName, r.realAddress, r.lastRef, none⟩

def renderV1 (t : Text) (clients : List ClientV1) (routes : List RouteV1) (stat : Text) :
    List Text :=
  [lit "OpenVPN CLIENT LIST", lit "Updated," ++ t,
      join ',' [lit "Common Name", lit "Real Address", lit "Bytes Received", lit "Bytes Sent",
        lit "Connected Since"]] ++
    clients.map ClientV1.line ++
    [lit "ROUTING TABLE",
      join ',' [lit "Virtual Address", lit "Common Name", lit "Real Address", lit "Last Ref"]] ++
    routes.map RouteV1.line ++ [lit "GLOBAL STATS", stat]

/-! One line -/

/-- A row of several fields is no marker; only one that starts with the name `Updated` is kept
    from its section. -/
theorem lineV1_fields {head : Text} {more : List Text} (free : ',' ∉ head) (several : more ≠ [])
    (state : StatusResponse × Section) :
    lineV1 state (join ',' (head :: more)) =
      if head = lit "Updated" then .ok ({ state.1 with updated := some (join ',' more) }, state.2)
      else rowV1 state (head :: split ',' (join ',' more)) := by
  rw [join_cons several]
  have marker (word : String) (plain : ',' ∉ lit word) : head ++ ',' :: join ',' more ≠ lit word := by
    intro same
    exact plain (same ▸ by simp)
  have list := marker "OpenVPN CLIENT LIST" (by simp [lit_eq])
  have routing := marker "ROUTING TABLE" (by simp [lit_eq])
  have stats := marker "GLOBAL STATS" (by simp [lit_eq])
  have start : lit "Updated," = lit "Updated" ++ [','] := by simp [lit_eq]
  simp only [lineV1, list, routing, stats, if_false, split_cons free]
  split_ifs with named
  · have found : stripPrefix (head ++ ',' :: join ',' more) (lit "Updated,") =
        some (join ',' more) := by
      rw [stripPrefix_eq_some, named, start]
      simp
    rw [found]
  · have absent : stripPrefix (head ++ ',' :: join ',' more) (lit "Updated,") = none := by
      rw [stripPrefix_eq_none, start]
      intro inside
      exact named (field_of_start (by simp [lit_eq]) free inside).1.symm
    rw [absent]

/- What the row of a client does: one named `Updated` passes for the time of the text. -/
def takeClient (status : StatusResponse) (c : ClientV1) : StatusResponse :=
  if c.commonName = lit "Updated" then { status with updated := some (join ',' c.fields) }
  else { status with clients := status.clients ++ [c.client] }

theorem lineV1_client (status : StatusResponse) (c : ClientV1) :
    lineV1 (status, .clientList) c.line = .ok (takeClient status c, .clientList) := by
  have number (n : U64) (field : String) : parseU64 (display n) field = .ok n := by
    rw [parseU64, parseUInt_display]
  have comma (n : U64) : ',' ∉ display n := not_mem_display n (by decide)
  have pieces : split ',' (join ',' c.fields) =
      c.realAddress :: display c.bytesIn :: display c.bytesOut :: split ',' c.connectedSince := by
    rw [ClientV1.fields, join_cons (by simp), split_cons c.addressFree, join_cons (by simp),
      split_cons (comma c.bytesIn), join_cons (by simp), split_cons (comma c.bytesOut), join_single]
  have date : split ',' c.connectedSince ≠ [] := List.splitOn_ne_nil _ _
  have wide : ¬ (c.commonName :: split ',' (join ',' c.fields)).length < 5 := by
    have := List.length_pos_of_ne_nil date
    simp only [pieces, List.length_cons]
    omega
  rw [ClientV1.line, lineV1_fields c.nameFree (by simp [ClientV1.fields]), takeClient]
  split_ifs with same
  · rfl
  · have row : clientRowV1 (c.commonName :: split ',' (join ',' c.fields)) = .ok c.client := by
      rw [clientRowV1, if_neg wide, pieces]
      simp only [List.getD_cons_zero, List.getD_cons_succ, List.drop_succ_cons, List.drop_zero,
        number, join_split]
      rfl
    simp only [rowV1, row]
    rfl

theorem lineV1_route (status : StatusResponse) (r : RouteV1) :
    lineV1 (status, .routingTable) r.line =
      .ok ({ status with routes := status.routes ++ [r.entry] }, .routingTable) := by
  have pieces : split ',' (join ',' [r.commonName, r.realAddress, r.lastRef]) =
      r.commonName :: r.realAddress :: split ',' r.lastRef := by
    rw [join_cons (by simp), split_cons r.nameFree, join_cons (by simp), split_cons r.addressFree,
      join_single]
  have reference : split ',' r.lastRef ≠ [] := List.splitOn_ne_nil _ _
  have wide : ¬ (r.virtualAddress :: r.commonName :: r.realAddress ::
      split ',' r.lastRef).length < 4 := by
    have := List.length_pos_of_ne_nil reference
    simp only [List.length_cons]
    omega
  rw [RouteV1.line, lineV1_fields r.virtualFree (by simp), if_neg r.noUpdate, pieces]
  have row : routeRowV1 (r.virtualAddress :: r.commonName :: r.realAddress ::
      split ',' r.lastRef) = .ok r.entry := by
    rw [routeRowV1, if_neg wide]
    simp [join_split, RouteV1.entry]
  simp only [rowV1, List.getElem?_cons_zero, Option.some.injEq, r.noHeading, if_false, row]
  rfl

theorem lineV1_stat (status : StatusResponse) (stat : Text) :
    ∃ after sect, lineV1 (status, .globalStats) stat = .ok (after, sect) ∧
      after.clients = status.clients ∧ after.routes = status.routes ∧
      after.updated = (stripPrefix stat (lit "Updated,")).or status.updated := by
  unfold lineV1
  cases found : stripPrefix stat (lit "Updated,") with
  | some updated =>
    have list : stat ≠ lit "OpenVPN CLIENT LIST" := by
      rintro rfl
      rw [stripPrefix_eq_none.mpr (by simp [lit_eq])] at found
      cases found
    rw [if_neg list]
    exact ⟨_, _, rfl, rfl, rfl, rfl⟩
  | none =>
    dsimp only [rowV1]
    split_ifs <;> exact ⟨_, _, rfl, rfl, rfl, rfl⟩

/-! The whole text -/

theorem takeClient_routes (clients : List ClientV1) (status : StatusResponse) :
    (clients.foldl takeClient status).routes = status.routes := by
  induction clients generalizing status with
  | nil => rfl
  | cons c more ih =>
    rw [List.foldl_cons, ih, takeClient]
    split <;> rfl

theorem takeClient_clients (clients : List ClientV1) (status : StatusResponse) :
    (clients.foldl takeClient status).clients = status.clients ++
      (clients.filter (·.commonName ≠ lit "Updated")).map ClientV1.client := by
  induction clients generalizing status with
  | nil => simp
  | cons c more ih =>
    rw [List.foldl_cons, ih, takeClient]
    split_ifs with named
    · simp [named]
    · simp [named]

theorem takeClient_others {clients : List ClientV1}
    (others : ∀ c ∈ clients, c.commonName ≠ lit "Updated") (status : StatusResponse) :
    clients.foldl takeClient status =
      { status with clients := status.clients ++ clients.map ClientV1.client } := by
  induction clients generalizing status with
  | nil => simp
  | cons c more ih =>
    rw [List.foldl_cons, ih (fun d member => others d (by simp [member])), takeClient,
      if_neg (others c (by simp))]
    simp

theorem takeRoutes_entries (routes : List RouteV1) (status : StatusResponse) :
    routes.foldl (fun s r => { s with routes := s.routes ++ [r.entry] }) status =
      { status with routes := status.routes ++ routes.map RouteV1.entry } := by
  induction routes generalizing status with
  | nil => simp
  | cons r more ih => simp [ih]

/-- Up to the row of the statistics the text is always accepted. -/
theorem renderV1_read (t : Text) (clients : List ClientV1) (routes : List RouteV1) (stat : Text) :
    parseStatus (renderV1 t clients routes stat) =
      Prod.fst <$> lineV1 ({ clients.foldl takeClient { StatusResponse.empty with updated := some t }
        with routes := routes.map RouteV1.entry }, .globalStats) stat := by
  let opened : StatusResponse := { StatusResponse.empty with updated := some t }
  let listed := clients.foldl takeClient opened
  let routed := { listed with routes := routes.map RouteV1.entry }
  have time : lineV1 (StatusResponse.empty, .header) (lit "Updated," ++ t) =
      .ok (opened, .header) := by
    have other : lit "Updated," ++ t ≠ lit "OpenVPN CLIENT LIST" := by simp [lit_eq]
    rw [lineV1, if_neg other, stripPrefix_append]
  have heading : lineV1 (opened, .header) (join ',' [lit "Common Name", lit "Real Address",
      lit "Bytes Received", lit "Bytes Sent", lit "Connected Since"]) = .ok (opened, .clientList) := by
    rw [lineV1_fields (by simp [lit_eq]) (by simp)]
    simp [rowV1]
  have table : lineV1 (listed, .clientList) (lit "ROUTING TABLE") = .ok (listed, .routingTable) := by
    simp [lineV1, stripPrefix_eq_none.mpr, lit_eq]
  have columns : lineV1 (listed, .routingTable) (join ',' [lit "Virtual Address",
      lit "Common Name", lit "Real Address", lit "Last Ref"]) = .ok (listed, .routingTable) := by
    rw [lineV1_fields (by simp [lit_eq]) (by simp)]
    simp [rowV1]
  have stats : lineV1 (routed, .routingTable) (lit "GLOBAL STATS") = .ok (routed, .globalStats) := by
    simp [lineV1, stripPrefix_eq_none.mpr, lit_eq]
  have listing := foldlM_accepts (fun s => (s, Section.clientList)) clients
    (fun c _ s => lineV1_client s c) opened
  have routing := foldlM_accepts (fun s => (s, Section.routingTable)) routes
    (fun r _ s => lineV1_route s r) listed
  have empty : listed.routes = [] := takeClient_routes clients opened
  rw [takeRoutes_entries, empty, List.nil_append] at routing
  have list : lineV1 (StatusResponse.empty, .header) (lit "OpenVPN CLIENT LIST") =
      .ok (StatusResponse.empty, .header) := by simp [lineV1]
  rw [parseStatus, if_pos (by simp [renderV1]), parseStatusV1, renderV1, List.append_assoc,
    List.append_assoc, List.append_assoc, List.cons_append, foldlM_cons_of_ok list,
    List.cons_append, foldlM_cons_of_ok time, List.cons_append, foldlM_cons_of_ok heading,
    List.nil_append, foldlM_append_of_ok listing, List.cons_append, foldlM_cons_of_ok table,
    List.cons_append, foldlM_cons_of_ok columns, List.nil_append, foldlM_append_of_ok routing,
    foldlM_cons_of_ok stats]
  exact congrArg (Prod.fst <$> ·) (bind_pure _)

theorem parse_renderV1 (t : Text) (clients : List ClientV1) (routes : List RouteV1) (stat : Text) :
    ∃ status, parseStatus (renderV1 t clients routes stat) = .ok status ∧
      status.clients = (clients.filter (·.commonName ≠ lit "Updated")).map ClientV1.client ∧
      status.routes = routes.map RouteV1.entry ∧
      status.updated = (stripPrefix stat (lit "Updated,")).or
        (clients.foldl takeClient { StatusResponse.empty with updated := some t }).updated := by
  rw [renderV1_read]
  obtain ⟨status, sect, last, kept, entries, updated⟩ := lineV1_stat
    { clients.foldl takeClient { StatusResponse.empty with updated := some t }
      with routes := routes.map RouteV1.entry } stat
  refine ⟨status, ?_, ?_, entries, updated⟩
  · rw [last]
    rfl
  · rw [kept, takeClient_clients]
    rfl

def statusV1 (t : Text) (clients : List ClientV1) (routes : List RouteV1) (queue : U64) :
    List Text :=
  renderV1 t clients routes (lit "Max bcast/mcast queue length," ++ display queue)

theorem parse_statusV1 {clients : List ClientV1}
    (others : ∀ c ∈ clients, c.commonName ≠ lit "Updated") (t : Text) (routes : List RouteV1)
    (queue : U64) :
    parseStatus (statusV1 t clients routes queue) =
      .ok ⟨none, none, some t, clients.map ClientV1.client, routes.map RouteV1.entry,
        ⟨some queue, none⟩⟩ := by
  have stat : lit "Max bcast/mcast queue length," ++ display queue =
      join ',' [lit "Max bcast/mcast queue length", display queue] := by
    simp [lit_eq, join_cons, join_single]
  have number : split ',' (display queue) = [display queue] :=
    split_plain (not_mem_display queue (by decide))
  rw [statusV1, renderV1_read, takeClient_others others, stat,
    lineV1_fields (by simp [lit_eq]) (by simp), if_neg (by simp [lit_eq]), join_single, number]
  simp [rowV1, applyGlobalStat, parseUInt_display, StatusResponse.empty]

def KeepsV1 (t : Text) (clients : List ClientV1) (routes : List RouteV1) (stat : Text) : Prop :=
  ∃ status, parseStatus (renderV1 t clients routes stat) = .ok status ∧ status.updated = some t ∧
    status.clients = clients.map ClientV1.client ∧ status.routes = routes.map RouteV1.entry

/-- `Updated,` is a marker in every section, and a client may be named like it. -/
theorem keepsV1_iff (t : Text) (clients : List ClientV1) (routes : List RouteV1) (stat : Text) :
    KeepsV1 t clients routes stat ↔
      (∀ c ∈ clients, c.commonName ≠ lit "Updated") ∧
        ∀ other, stat = lit "Updated," ++ other → other = t := by
  obtain ⟨status, read, kept, entries, updated⟩ := parse_renderV1 t clients routes stat
  have names : status.clients = clients.map ClientV1.client ↔
      ∀ c ∈ clients, c.commonName ≠ lit "Updated" := by
    rw [kept]
    constructor
    · intro same
      have count := congrArg List.length same
      simp only [List.length_map, List.length_filter_eq_length_iff] at count
      simpa using count
    · intro others
      rw [List.filter_eq_self.mpr (by simpa using others)]
  have found : KeepsV1 t clients routes stat ↔
      status.updated = some t ∧ status.clients = clients.map ClientV1.client := by
    constructor
    · rintro ⟨other, again, time, all, -⟩
      rw [read] at again
      cases again
      exact ⟨time, all⟩
    · rintro ⟨time, all⟩
      exact ⟨status, read, time, all, entries⟩
  rw [found, names, and_comm]
  refine and_congr_right fun others => ?_
  rw [updated, takeClient_others others]
  cases marked : stripPrefix stat (lit "Updated,") with
  | none =>
    refine iff_of_true rfl fun other same => ?_
    rw [same, stripPrefix_append] at marked
    cases marked
  | some late =>
    have shape := stripPrefix_eq_some.mp marked
    simp [shape]

def updatedClient : ClientV1 :=
  ⟨lit "Updated", lit "203.0.113.10:52841", 1548576, 984320, lit "2024-03-21 09:15:00",
    by simp [lit_eq], by simp [lit_eq]⟩

/-- The row of the client takes the place of the time, and the client is gone. -/
theorem client_named_updated_lost :
    (parseStatus (renderV1 (lit "2024-03-21 14:30:00") [updatedClient] []
        (lit "Max bcast/mcast queue length,0"))).map (fun s => (s.updated, s.clients)) =
      .ok (some (lit "203.0.113.10:52841,1548576,984320,2024-03-21 09:15:00"), []) ∧
      ¬ KeepsV1 (lit "2024-03-21 14:30:00") [updatedClient] []
        (lit "Max bcast/mcast queue length,0") := by
  have read : (parseStatus (renderV1 (lit "2024-03-21 14:30:00") [updatedClient] []
      (lit "Max bcast/mcast queue length,0"))).map (fun s => (s.updated, s.clients)) =
      .ok (some (lit "203.0.113.10:52841,1548576,984320,2024-03-21 09:15:00"), []) := by
    decide +kernel
  refine ⟨read, ?_⟩
  rintro ⟨status, accepted, -, clients, -⟩
  rw [accepted] at read
  have lost : status.clients = [] := by
    have pair := Except.ok.inj read
    exact (Prod.mk.inj pair).2
  rw [lost] at clients
  cases clients

end MgmtStatusSections
