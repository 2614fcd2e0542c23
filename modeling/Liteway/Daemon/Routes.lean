import Liteway.Core.Crypto
import Liteway.Library.Claims
import Mathlib.Data.List.Destutter

/-!
# Routes and the addresses a certificate authorizes

The route table maps networks to peers, longest prefix first.  What a peer may
send from, and what the node itself may receive, is read off a certificate.
-/

namespace Liteway.Daemon

open Liteway.Library Liteway.Core

/-! ## The route table -/

structure RouteTable where
  routes : List (IpNetwork × UInt32)
deriving DecidableEq

namespace RouteTable

def new : RouteTable := ⟨[]⟩

def insert (table : RouteTable) (network : IpNetwork) (peerId : UInt32) : RouteTable :=
  ⟨table.routes.filter (fun route => route.1 ≠ network) ++ [(network, peerId)]⟩

/-- The longest match; of several equally long ones the last. -/
def lookup (table : RouteTable) (ip : IpAddr) : Option UInt32 :=
  let better (best : Option (IpNetwork × UInt32)) (route : IpNetwork × UInt32) :=
    match best with
    | none => some route
    | some found => if route.1.prefixLen ≥ found.1.prefixLen then some route else some found
  ((table.routes.filter fun route => route.1.contains ip).foldl better none).map Prod.snd

def removePeer (table : RouteTable) (peerId : UInt32) : RouteTable :=
  ⟨table.routes.filter fun route => route.2 ≠ peerId⟩

def insertAll (table : RouteTable) (routes : List IpNetwork) (peerId : UInt32) : RouteTable :=
  routes.foldl (fun table route => table.insert route peerId) table

def Mentions (table : RouteTable) (peerId : UInt32) : Prop :=
  ∃ route ∈ table.routes, route.2 = peerId

theorem mentions_insert {table : RouteTable} {network : IpNetwork} {peerId other : UInt32}
    (h : (table.insert network peerId).Mentions other) : table.Mentions other ∨ other = peerId := by
  obtain ⟨route, hmem, rfl⟩ := h
  obtain hold | hnew := List.mem_append.mp hmem
  · exact Or.inl ⟨route, (List.mem_filter.mp hold).1, rfl⟩
  · cases List.mem_singleton.mp hnew
    exact Or.inr rfl

theorem mentions_insertAll {table : RouteTable} {routes : List IpNetwork} {peerId other : UInt32}
    (h : (table.insertAll routes peerId).Mentions other) :
    table.Mentions other ∨ other = peerId := by
  induction routes generalizing table with
  | nil => exact Or.inl h
  | cons route routes ih =>
      obtain hold | rfl := ih h
      · exact mentions_insert hold
      · exact Or.inr rfl

theorem mentions_removePeer {table : RouteTable} {peerId other : UInt32}
    (h : (table.removePeer peerId).Mentions other) : table.Mentions other ∧ other ≠ peerId := by
  obtain ⟨route, hmem, rfl⟩ := h
  obtain ⟨hmem, hne⟩ := List.mem_filter.mp hmem
  exact ⟨⟨route, hmem, rfl⟩, by simpa using hne⟩

/-! The table is a table of owners. -/

theorem routes_insertAll (table : RouteTable) (routes : List IpNetwork) (peerId : UInt32) :
    (table.insertAll routes peerId).routes =
      OwnerTable.assignAll table.routes routes peerId := by
  induction routes generalizing table with
  | nil => rfl
  | cons route routes ih => exact ih (table.insert route peerId)

section Choice

variable {better : Option (IpNetwork × UInt32) → IpNetwork × UInt32 → Option (IpNetwork × UInt32)}
  {routes : List (IpNetwork × UInt32)} {start : Option (IpNetwork × UInt32)}

private theorem foldl_better {found : IpNetwork × UInt32}
    (hbetter : ∀ best route, better best route = some route ∨
      better best route = best ∧ best.isSome = true)
    (h : routes.foldl better start = some found) : found ∈ routes ∨ start = some found := by
  induction routes generalizing start with
  | nil => exact Or.inr h
  | cons route routes ih =>
      obtain hmem | hstart := ih h
      · exact Or.inl (List.mem_cons_of_mem _ hmem)
      · obtain hnew | ⟨hold, -⟩ := hbetter start route
        · cases hnew.symm.trans hstart
          exact Or.inl List.mem_cons_self
        · exact Or.inr (hold.symm.trans hstart)

private theorem isSome_foldl_better
    (hbetter : ∀ best route, better best route = some route ∨
      better best route = best ∧ best.isSome = true)
    (h : start.isSome = true ∨ routes ≠ []) : (routes.foldl better start).isSome = true := by
  induction routes generalizing start with
  | nil => simpa using h
  | cons route routes ih =>
      apply ih
      left
      obtain hnew | ⟨hold, hsome⟩ := hbetter start route
      · rw [hnew]
        rfl
      · rw [hold]
        exact hsome

end Choice

private theorem lookup_better (best : Option (IpNetwork × UInt32)) (route : IpNetwork × UInt32) :
    (match best with
      | none => some route
      | some found =>
          if route.1.prefixLen ≥ found.1.prefixLen then some route else some found) = some route ∨
    (match best with
      | none => some route
      | some found =>
          if route.1.prefixLen ≥ found.1.prefixLen then some route else some found) = best ∧
      best.isSome = true := by
  cases best with
  | none => exact Or.inl rfl
  | some found =>
      dsimp only
      split
      · exact Or.inl rfl
      · exact Or.inr ⟨rfl, rfl⟩

theorem mem_of_lookup {table : RouteTable} {ip : IpAddr} {peerId : UInt32}
    (h : table.lookup ip = some peerId) :
    ∃ network, (network, peerId) ∈ table.routes ∧ network.contains ip = true := by
  unfold lookup at h
  obtain ⟨⟨network, found⟩, hfold, rfl⟩ := Option.map_eq_some_iff.mp h
  obtain hmem | hnone := foldl_better lookup_better hfold
  · obtain ⟨hmem, hcontains⟩ := List.mem_filter.mp hmem
    exact ⟨network, hmem, hcontains⟩
  · contradiction

theorem lookup_isSome_of_mem {table : RouteTable} {ip : IpAddr} {network : IpNetwork}
    {peerId : UInt32} (hmem : (network, peerId) ∈ table.routes)
    (hcontains : network.contains ip = true) : ∃ found, table.lookup ip = some found := by
  have hfiltered : table.routes.filter (fun route => route.1.contains ip) ≠ [] :=
    List.ne_nil_of_mem (List.mem_filter.mpr ⟨hmem, hcontains⟩)
  have hsome := @isSome_foldl_better _ _ none lookup_better (Or.inr hfiltered)
  unfold lookup
  obtain ⟨route, hroute⟩ := Option.isSome_iff_exists.mp hsome
  exact ⟨route.2, by simp only [hroute, Option.map_some]⟩

end RouteTable

/-! ## Certificates -/

section Certificates

variable (lib : Primitives)

def nodeIdFromCert (cert : Cert) : UInt32 :=
  let hash := lib.blake3Hash ("liteway-node-id-v1".toUTF8.data.toList ++
    (cert.body.keys.ed25519Pk.toList ++ cert.body.keys.mlDsaPk.toList))
  decodeU32BE (Bytes.slice hash.toList 0 4 (by simp))

def hostRoute (addr : String) : Option IpNetwork := do
  let network ← lib.ipNetworkParse addr
  IpNetwork.new? network.ip network.ip.width

def primaryCertIp (cert : Cert) : Option IpAddr := do
  let addrs ← cert.body.addresses
  let network ← lib.ipNetworkParse addrs.ip
  pure network.ip

/-- `none` when the address does not parse, `some none` when its prefix spans
everything or a single host. -/
def discoveryRouteFromInterfaceAddr (addr : String) : Option (Option IpNetwork) := do
  let network ← lib.ipNetworkParse addr
  if network.prefixLen = 0 ∨ network.prefixLen ≥ network.ip.width then pure none
  else pure (IpNetwork.new? network.network network.prefixLen)

def isDefaultRoute (route : IpNetwork) : Bool := route.prefixLen = 0

def routeAllGrant : String := "route:*"

def routeGrantPrefix : String := "route:"

/-- The network named by a group that starts with `route:`. -/
def grantedRoute (group : String) : Option IpNetwork :=
  if routeGrantPrefix.toList.isPrefixOf group.toList then
    lib.ipNetworkParse (String.ofList (group.toList.drop routeGrantPrefix.length))
  else none

def routeGrantedByCert (cert : Cert) (route : IpNetwork) : Bool :=
  cert.body.info.groups.any fun group =>
    group = routeAllGrant ||
      match grantedRoute lib group with
      | none => false
      | some granted => granted.contains route.ip && granted.prefixLen ≤ route.prefixLen

/-- The order of `sort_by_key`: address family, address, prefix length. -/
def routeLe (left right : IpNetwork) : Bool :=
  let key (route : IpNetwork) : Nat × Nat × Nat :=
    match route.ip with
    | .v4 octets => (4, octets.toNat, route.prefixLen)
    | .v6 octets => (6, octets.toNat, route.prefixLen)
  let (family, octets, len) := key left
  let (family', octets', len') := key right
  family < family' || (family == family' && (octets < octets' || (octets == octets' && len ≤ len')))

def authorizedPeerRoutes (cert : Cert) : List IpNetwork :=
  match cert.body.addresses with
  | none => []
  | some addrs =>
      let host := (hostRoute lib addrs.ip).toList
      let subnets := addrs.subnets.filterMap fun subnet =>
        match lib.ipNetworkParse subnet with
        | none => none
        | some route =>
            if isDefaultRoute route then none
            else if routeGrantedByCert lib cert route then some route
            else none
      ((host ++ subnets).mergeSort routeLe).destutter (· ≠ ·)

/-- The overlay networks that `main` gathers for the tunnel interface. -/
def overlayNetworks (cert : Cert) : List IpNetwork :=
  match cert.body.addresses with
  | none => []
  | some addrs => ((discoveryRouteFromInterfaceAddr lib addrs.ip).getD none).toList

end Certificates

private theorem mem_destutter_self {routes : List IpNetwork} {first route : IpNetwork} :
    route ∈ routes.destutter' (· ≠ ·) first ↔ route = first ∨ route ∈ routes := by
  induction routes generalizing first with
  | nil => simp
  | cons next routes ih =>
      by_cases hnext : first = next
      · subst next
        rw [List.destutter'_cons_neg _ (by simp), ih, List.mem_cons, or_self_left]
      · rw [List.destutter'_cons_pos _ hnext, List.mem_cons, ih, List.mem_cons]

private theorem mem_destutter_ne {routes : List IpNetwork} {route : IpNetwork} :
    route ∈ routes.destutter (· ≠ ·) ↔ route ∈ routes := by
  cases routes with
  | nil => rfl
  | cons first routes =>
      rw [List.destutter_cons', mem_destutter_self, List.mem_cons]

/-- Sorting and deduplication aside: the host route and the granted subnets. -/
theorem mem_authorizedPeerRoutes_iff {lib : Primitives} {cert : Cert} {route : IpNetwork} :
    route ∈ authorizedPeerRoutes lib cert ↔
      ∃ addrs, cert.body.addresses = some addrs ∧
        (hostRoute lib addrs.ip = some route ∨
          ∃ subnet ∈ addrs.subnets, lib.ipNetworkParse subnet = some route ∧
            isDefaultRoute route = false ∧ routeGrantedByCert lib cert route = true) := by
  unfold authorizedPeerRoutes
  cases haddrs : cert.body.addresses with
  | none => simp
  | some addrs =>
      simp only [mem_destutter_ne, List.mem_mergeSort, List.mem_append, Option.mem_toList,
        List.mem_filterMap, Option.some.injEq, exists_eq_left']
      refine or_congr_right (exists_congr fun subnet => and_congr_right fun _ => ?_)
      cases hparse : lib.ipNetworkParse subnet with
      | none => simp
      | some parsed =>
          simp only [Option.some.injEq]
          cases hdefault : isDefaultRoute parsed <;> cases hgranted : routeGrantedByCert lib cert parsed
          all_goals simp only [Bool.false_eq_true, ↓reduceIte, Option.some.injEq, reduceCtorEq,
            false_iff, not_and]
          all_goals grind

/-! ## IP packets -/

/-- The address at the given offset of an IPv4 or an IPv6 header. -/
def parseIpAt (v4Start v6Start : Nat) (hv4 : v4Start + 4 ≤ 20) (hv6 : v6Start + 16 ≤ 40)
    (packet : ByteString) : Option IpAddr :=
  match packet.head? with
  | none => none
  | some first =>
      if h4 : first >>> 4 = 4 ∧ 20 ≤ packet.length then
        some (.v4 (BitVec.ofNat 32
          (decodeNatBE (Bytes.slice packet v4Start 4 (Nat.le_trans hv4 h4.2)).toList)))
      else if h6 : first >>> 4 = 6 ∧ 40 ≤ packet.length then
        some (.v6 (BitVec.ofNat 128
          (decodeNatBE (Bytes.slice packet v6Start 16 (Nat.le_trans hv6 h6.2)).toList)))
      else none

def parseSourceIp : ByteString → Option IpAddr := parseIpAt 12 8 (by decide) (by decide)

def parseDestIp : ByteString → Option IpAddr := parseIpAt 16 24 (by decide) (by decide)

def isOverlayBroadcast (ip : IpAddr) (overlayNetworks : List IpNetwork) : Bool :=
  match ip with
  | .v6 _ => false
  | .v4 dst =>
      overlayNetworks.any fun network =>
        match network.network with
        | .v6 _ => false
        | .v4 networkIp =>
            if network.prefixLen ≥ 32 then false
            else dst == networkIp ||| (BitVec.allOnes 32 >>> network.prefixLen)

end Liteway.Daemon
