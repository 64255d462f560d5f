import OpenvpnMgmt.Lib.Rows
import OpenvpnMgmt.Values

/-!
The typed parser of the answer to `status` in server mode. V1 is a text with sections, whose
markers are recognised line by line; V2 and V3 are tables of tagged rows, with a comma or a tab
between the fields.
-/
namespace MgmtStatus
open TextOps SeparatedRows MgmtValues

structure GlobalStats where
  maxBcastMcastQueueLength : Option U64
  dcoEnabled : Option Bool
  deriving DecidableEq, Repr

structure ConnectedClient where
  commonName : Text
  realAddress : Text
  virtualAddress : Text
  virtualIpv6 : Text
  bytesIn : U64
  bytesOut : U64
  connectedSince : Text
  connectedSinceT : Option UtcTimestamp
  username : Option Text
  cid : Option U64
  peerId : Option U64
  cipher : Option Text
  deriving DecidableEq, Repr

structure RoutingEntry where
  virtualAddress : Text
  commonName : Text
  realAddress : Text
  lastRef : Text
  lastRefT : Option UtcTimestamp
  deriving DecidableEq, Repr

structure StatusResponse where
  title : Option Text
  timestamp : Option UtcTimestamp
  updated : Option Text
  clients : List ConnectedClient
  routes : List RoutingEntry
  globalStats : GlobalStats
  deriving DecidableEq, Repr

inductive ParseStatusError where
  | invalidInteger (field value : Text)
  | clientListTooFewFields (columns : Nat)
  | routingTableTooFewFields (columns : Nat)
  | missingStatisticsKey (key : Text)
  deriving DecidableEq, Repr

abbrev Parsed := Except ParseStatusError

def StatusResponse.empty : StatusResponse := ⟨none, none, none, [], [], ⟨none, none⟩⟩

/- The tags a tab behind which makes the whole table tab-separated. -/
def separatorTags : List Text :=
  [lit "TITLE", lit "TIME", lit "HEADER", lit "CLIENT_LIST", lit "ROUTING_TABLE",
    lit "GLOBAL_STATS"]

def detectSeparator (lines : List Text) : Char :=
  if lines.any fun line => separatorTags.any fun tag => (tag ++ ['\t']).isPrefixOf line then '\t'
  else ','

def parseU64 (s : Text) (field : String) : Parsed U64 :=
  match parseUInt 64 s with
  | some n => .ok n
  | none => .error (.invalidInteger (lit field) s)

def parseOptionalU64 (s : Text) : Option U64 :=
  if s = [] ∨ s = lit "UNDEF" then none else parseUInt 64 s

def parseOptionalTimestamp (s : Text) : Option UtcTimestamp :=
  (parseOptionalU64 s).map UtcTimestamp.mk

def parseOptionalString (s : Text) : Option Text :=
  if s = [] ∨ s = lit "UNDEF" then none else some s

def applyGlobalStat (stats : GlobalStats) (key value : Text) : GlobalStats :=
  if key = lit "Max bcast/mcast queue length" then
    { stats with maxBcastMcastQueueLength := parseUInt 64 value }
  else if key = lit "dco_enabled" then
    { stats with dcoEnabled :=
        if value = lit "1" then some true else if value = lit "0" then some false else none }
  else stats

/-! V1 -/

inductive Section where
  | header
  | clientList
  | routingTable
  | globalStats
  deriving DecidableEq, Repr

/- The row of a client; the date may hold commas. -/
def clientRowV1 (fields : List Text) : Parsed ConnectedClient :=
  if fields.length < 5 then .error (.clientListTooFewFields fields.length)
  else do
    let bytesIn ← parseU64 (fields.getD 2 []) "bytes_received"
    let bytesOut ← parseU64 (fields.getD 3 []) "bytes_sent"
    return {
      commonName := fields.getD 0 [], realAddress := fields.getD 1 []
      virtualAddress := [], virtualIpv6 := []
      bytesIn, bytesOut
      connectedSince := join ',' (fields.drop 4)
      connectedSinceT := none, username := none, cid := none, peerId := none, cipher := none }

def routeRowV1 (fields : List Text) : Parsed RoutingEntry :=
  if fields.length < 4 then .error (.routingTableTooFewFields fields.length)
  else .ok {
    virtualAddress := fields.getD 0 [], commonName := fields.getD 1 []
    realAddress := fields.getD 2 [], lastRef := join ',' (fields.drop 3), lastRefT := none }

def rowV1 (state : StatusResponse × Section) (fields : List Text) :
    Parsed (StatusResponse × Section) :=
  let (status, sect) := state
  match sect with
  | .header => .ok (status, if fields[0]? = some (lit "Common Name") then .clientList else .header)
  | .clientList => do
    let client ← clientRowV1 fields
    return ({ status with clients := status.clients ++ [client] }, sect)
  | .routingTable =>
    if fields[0]? = some (lit "Virtual Address") then .ok (status, sect)
    else do
      let route ← routeRowV1 fields
      return ({ status with routes := status.routes ++ [route] }, sect)
  | .globalStats =>
    if 2 ≤ fields.length then
      let stats := applyGlobalStat status.globalStats (fields.getD 0 []) (join ',' (fields.drop 1))
      .ok ({ status with globalStats := stats }, sect)
    else .ok (status, sect)

/- The markers are recognised in every section, before the line is read as a row. -/
def lineV1 (state : StatusResponse × Section) (line : Text) : Parsed (StatusResponse × Section) :=
  if line = lit "OpenVPN CLIENT LIST" then .ok (state.1, .header)
  else match stripPrefix line (lit "Updated,") with
    | some updated => .ok ({ state.1 with updated := some updated }, state.2)
    | none =>
      if line = lit "ROUTING TABLE" then .ok (state.1, .routingTable)
      else if line = lit "GLOBAL STATS" then .ok (state.1, .globalStats)
      else rowV1 state (split ',' line)

def parseStatusV1 (lines : List Text) : Parsed StatusResponse :=
  Prod.fst <$> lines.foldlM lineV1 (StatusResponse.empty, .header)

/-! V2 and V3 -/

def modernClient (cols : List Text) : Parsed ConnectedClient := do
  let bytesIn ← parseU64 (cols.getD 4 []) "bytes_received"
  let bytesOut ← parseU64 (cols.getD 5 []) "bytes_sent"
  return {
    commonName := cols.getD 0 [], realAddress := cols.getD 1 []
    virtualAddress := cols.getD 2 [], virtualIpv6 := cols.getD 3 []
    bytesIn, bytesOut
    connectedSince := cols.getD 6 []
    connectedSinceT := parseOptionalTimestamp (cols[7]?.getD [])
    username := cols[8]?.bind parseOptionalString
    cid := cols[9]?.bind parseOptionalU64
    peerId := cols[10]?.bind parseOptionalU64
    cipher := cols[11]?.bind parseOptionalString }

/- The older layout has no IPv6, no peer id and no cipher. -/
def olderClient (cols : List Text) : Parsed ConnectedClient := do
  let bytesIn ← parseU64 (cols.getD 3 []) "bytes_received"
  let bytesOut ← parseU64 (cols.getD 4 []) "bytes_sent"
  return {
    commonName := cols.getD 0 [], realAddress := cols.getD 1 []
    virtualAddress := cols.getD 2 [], virtualIpv6 := []
    bytesIn, bytesOut
    connectedSince := cols[5]?.getD []
    connectedSinceT := cols[6]?.bind parseOptionalTimestamp
    username := cols[7]?.bind parseOptionalString
    cid := none, peerId := none, cipher := none }

/- The layout is told from the number of columns alone. -/
def clientRow (cols : List Text) : Parsed ConnectedClient :=
  if 12 ≤ cols.length then modernClient cols
  else if cols.length < 5 then .error (.clientListTooFewFields cols.length)
  else olderClient cols

def routeRow (cols : List Text) : Parsed RoutingEntry :=
  if cols.length < 4 then .error (.routingTableTooFewFields cols.length)
  else .ok {
    virtualAddress := cols.getD 0 [], commonName := cols.getD 1 []
    realAddress := cols.getD 2 [], lastRef := cols.getD 3 []
    lastRefT := cols[4]?.bind parseOptionalTimestamp }

/- A row by its tag. HEADER rows describe columns; unknown tags are skipped. -/
def rowV2V3 (sep : Char) (status : StatusResponse) (fields : List Text) : Parsed StatusResponse :=
  let tag := fields.head?.getD []
  let cols := fields.drop 1
  if tag = lit "TITLE" then .ok { status with title := fields[1]? }
  else if tag = lit "TIME" then
    .ok { status with updated := fields[1]?, timestamp := fields[2]?.bind parseOptionalTimestamp }
  else if tag = lit "HEADER" then .ok status
  else if tag = lit "CLIENT_LIST" then do
    return { status with clients := status.clients ++ [← clientRow cols] }
  else if tag = lit "ROUTING_TABLE" then do
    return { status with routes := status.routes ++ [← routeRow cols] }
  else if tag = lit "GLOBAL_STATS" ∧ 3 ≤ fields.length then
    let value := join sep (fields.drop 2)
    .ok { status with globalStats := applyGlobalStat status.globalStats (fields.getD 1 []) value }
  else .ok status

def parseStatusV2V3 (lines : List Text) (sep : Char) : Parsed StatusResponse :=
  lines.foldlM (fun status line => rowV2V3 sep status (split sep line)) StatusResponse.empty

def parseStatus (lines : List Text) : Parsed StatusResponse :=
  if lines.head? = some (lit "OpenVPN CLIENT LIST") then parseStatusV1 lines
  else parseStatusV2V3 lines (detectSeparator lines)

end MgmtStatus
