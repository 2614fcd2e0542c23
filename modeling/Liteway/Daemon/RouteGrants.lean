import Liteway.Daemon.Routes
import Liteway.Library.BitPrefix

/-!
# Granted routes

A certificate grants a subnet if one of the networks it names has every address of
the subnet.  The code compares the written address and the prefix lengths instead;
the two are the same.  What is granted is then sorted and deduplicated.
-/

namespace Liteway.Core

open Liteway.Library

namespace IpNetwork

/-- Every address of `inner` is one of `outer`. -/
def Includes (outer inner : IpNetwork) : Prop :=
  ∀ ip, inner.contains ip = true → outer.contains ip = true

theorem contains_v4_iff {network : IpNetwork} {octets addr : BitVec 32}
    (h : network.ip = .v4 octets) :
    network.contains (.v4 addr) = true ↔ AgreeOn network.prefixLen octets addr := by
  simp only [contains, h, beq_iff_eq, mask, and_leading_eq_iff]

theorem contains_v6_iff {network : IpNetwork} {octets addr : BitVec 128}
    (h : network.ip = .v6 octets) :
    network.contains (.v6 addr) = true ↔ AgreeOn network.prefixLen octets addr := by
  simp only [contains, h, beq_iff_eq, mask, and_leading_eq_iff]

theorem contains_ip (network : IpNetwork) : network.contains network.ip = true := by
  cases h : network.ip with
  | v4 octets => exact (contains_v4_iff h).mpr (AgreeOn.refl _ _)
  | v6 octets => exact (contains_v6_iff h).mpr (AgreeOn.refl _ _)

private theorem includes_iff_of_family {width : Nat} {family : BitVec width → IpAddr}
    {outer inner : IpNetwork} {octets octets' : BitVec width} (hlen : outer.prefixLen ≤ width)
    (houter : ∀ addr, outer.contains (family addr) = true ↔ AgreeOn outer.prefixLen octets addr)
    (hinner : ∀ addr, inner.contains (family addr) = true ↔ AgreeOn inner.prefixLen octets' addr)
    (honly : ∀ ip, inner.contains ip = true → ∃ addr, ip = family addr) :
    outer.Includes inner ↔
      outer.contains (family octets') = true ∧ outer.prefixLen ≤ inner.prefixLen := by
  rw [houter, and_comm, ← agreeOn_subset_iff hlen]
  constructor
  · intro h addr haddr
    rw [← houter]
    exact h (family addr) ((hinner addr).mpr haddr)
  · intro h ip hip
    obtain ⟨addr, rfl⟩ := honly ip hip
    rw [houter]
    exact h addr ((hinner addr).mp hip)

private theorem not_includes_of_families {outer inner : IpNetwork}
    (h : outer.contains inner.ip = false) :
    outer.Includes inner ↔
      outer.contains inner.ip = true ∧ outer.prefixLen ≤ inner.prefixLen := by
  have hwritten : ¬ outer.contains inner.ip = true := by
    rw [h]
    exact Bool.false_ne_true
  constructor
  · intro hincludes
    exact absurd (hincludes inner.ip (contains_ip inner)) hwritten
  · intro hboth
    exact absurd hboth.1 hwritten

/-- A network has all addresses of another one exactly if it has the one that is
written there and fixes no more bits. -/
theorem includes_iff (outer inner : IpNetwork) :
    outer.Includes inner ↔
      outer.contains inner.ip = true ∧ outer.prefixLen ≤ inner.prefixLen := by
  have hlen := outer.prefixLen_le
  cases houter : outer.ip with
  | v4 octets =>
      rw [houter] at hlen
      cases hinner : inner.ip with
      | v4 octets' =>
          apply includes_iff_of_family hlen (fun _ => contains_v4_iff houter)
            (fun _ => contains_v4_iff hinner)
          intro ip hip
          cases ip with
          | v4 addr => exact ⟨addr, rfl⟩
          | v6 addr => simp [contains, hinner] at hip
      | v6 octets' =>
          rw [← hinner]
          apply not_includes_of_families
          simp [contains, houter, hinner]
  | v6 octets =>
      rw [houter] at hlen
      cases hinner : inner.ip with
      | v4 octets' =>
          rw [← hinner]
          apply not_includes_of_families
          simp [contains, houter, hinner]
      | v6 octets' =>
          apply includes_iff_of_family hlen (fun _ => contains_v6_iff houter)
            (fun _ => contains_v6_iff hinner)
          intro ip hip
          cases ip with
          | v4 addr => simp [contains, hinner] at hip
          | v6 addr => exact ⟨addr, rfl⟩

end IpNetwork

end Liteway.Core

namespace Liteway.Daemon

open Liteway.Library Liteway.Core

/-! ## Grants -/

theorem grantedRoute_eq_some_iff {lib : Primitives} {group : String} {network : IpNetwork} :
    grantedRoute lib group = some network ↔
      ∃ text, group = routeGrantPrefix ++ text ∧ lib.ipNetworkParse text = some network := by
  unfold grantedRoute
  constructor
  · intro h
    split at h
    · rename_i hprefix
      obtain ⟨rest, hrest⟩ := List.isPrefixOf_iff_prefix.mp hprefix
      refine ⟨String.ofList (group.toList.drop routeGrantPrefix.length), ?_, h⟩
      apply String.toList_inj.mp
      rw [String.toList_append, String.toList_ofList, ← hrest, ← String.length_toList,
        List.drop_left]
    · contradiction
  · rintro ⟨text, rfl, hparse⟩
    have hprefix : routeGrantPrefix.toList.isPrefixOf (routeGrantPrefix ++ text).toList = true := by
      rw [List.isPrefixOf_iff_prefix, String.toList_append]
      exact List.prefix_append _ _
    rw [if_pos hprefix, String.toList_append, ← String.length_toList, List.drop_left,
      String.ofList_toList, hparse]

/-- Some group of the certificate covers every address of the route. -/
def Granted (lib : Primitives) (cert : Cert) (route : IpNetwork) : Prop :=
  ∃ group ∈ cert.body.info.groups, group = "route:*" ∨
    ∃ text network, group = "route:" ++ text ∧ lib.ipNetworkParse text = some network ∧
      network.Includes route

theorem routeGrantedByCert_iff {lib : Primitives} {cert : Cert} {route : IpNetwork} :
    routeGrantedByCert lib cert route = true ↔ Granted lib cert route := by
  unfold routeGrantedByCert Granted
  rw [List.any_eq_true]
  apply exists_congr
  intro group
  apply and_congr_right
  intro _
  rw [Bool.or_eq_true, decide_eq_true_eq]
  apply or_congr_right
  constructor
  · intro h
    cases hgranted : grantedRoute lib group with
    | none =>
        rw [hgranted] at h
        contradiction
    | some network =>
        rw [hgranted] at h
        obtain ⟨text, hgroup, hparse⟩ := grantedRoute_eq_some_iff.mp hgranted
        rw [Bool.and_eq_true, decide_eq_true_eq, ← IpNetwork.includes_iff] at h
        exact ⟨text, network, hgroup, hparse, h⟩
  · rintro ⟨text, network, hgroup, hparse, hincludes⟩
    rw [grantedRoute_eq_some_iff.mpr ⟨text, hgroup, hparse⟩]
    rw [IpNetwork.includes_iff] at hincludes
    rw [Bool.and_eq_true, decide_eq_true_eq]
    exact hincludes

/-! ## The host route and the order of the routes -/

theorem hostRoute_eq_some_iff {lib : Primitives} {addr : String} {route : IpNetwork} :
    hostRoute lib addr = some route ↔
      ∃ network, lib.ipNetworkParse addr = some network ∧ route.ip = network.ip ∧
        route.prefixLen = network.ip.width := by
  unfold hostRoute
  cases hparse : lib.ipNetworkParse addr with
  | none => simp
  | some network =>
      simp only [Option.bind_eq_bind, Option.bind_some, IpNetwork.new?, le_refl, ↓reduceDIte,
        Option.some.injEq, exists_eq_left']
      cases route with
      | mk ip prefixLen hlen =>
          rw [IpNetwork.mk.injEq]
          exact and_congr eq_comm eq_comm

/-- What `routeLe` compares, written as one number per component. -/
def routeKey (route : IpNetwork) : Nat × Nat × Nat :=
  match route.ip with
  | .v4 octets => (4, octets.toNat, route.prefixLen)
  | .v6 octets => (6, octets.toNat, route.prefixLen)

theorem routeKey_injective : Function.Injective routeKey := by
  rintro ⟨ip, len, hlen⟩ ⟨ip', len', hlen'⟩ h
  cases ip <;> cases ip' <;>
    simp_all [routeKey, BitVec.toNat_inj]

theorem routeLe_iff {left right : IpNetwork} :
    routeLe left right = true ↔ (routeKey left).1 < (routeKey right).1 ∨
      ((routeKey left).1 = (routeKey right).1 ∧ ((routeKey left).2.1 < (routeKey right).2.1 ∨
        ((routeKey left).2.1 = (routeKey right).2.1 ∧
          (routeKey left).2.2 ≤ (routeKey right).2.2))) := by
  have hkeys : routeLe left right = (decide ((routeKey left).1 < (routeKey right).1) ||
      ((routeKey left).1 == (routeKey right).1 && (decide ((routeKey left).2.1 < (routeKey right).2.1) ||
        ((routeKey left).2.1 == (routeKey right).2.1 &&
          decide ((routeKey left).2.2 ≤ (routeKey right).2.2))))) := rfl
  rw [hkeys]
  simp only [Bool.or_eq_true, Bool.and_eq_true, decide_eq_true_eq, beq_iff_eq]

theorem routeLe_trans (left middle right : IpNetwork) (hleft : routeLe left middle = true)
    (hright : routeLe middle right = true) : routeLe left right = true := by
  rw [routeLe_iff] at hleft hright ⊢
  omega

theorem routeLe_total (left right : IpNetwork) :
    (routeLe left right || routeLe right left) = true := by
  rw [Bool.or_eq_true, routeLe_iff, routeLe_iff]
  omega

theorem routeLe_antisymm {left right : IpNetwork} (hleft : routeLe left right = true)
    (hright : routeLe right left = true) : left = right := by
  rw [routeLe_iff] at hleft hright
  apply routeKey_injective
  apply Prod.ext
  · omega
  · apply Prod.ext <;> omega

theorem nodup_authorizedPeerRoutes (lib : Primitives) (cert : Cert) :
    (authorizedPeerRoutes lib cert).Nodup := by
  unfold authorizedPeerRoutes
  cases cert.body.addresses with
  | none => exact List.nodup_nil
  | some addrs =>
      have hsorted := List.pairwise_mergeSort routeLe_trans routeLe_total
      have : Std.Antisymm fun left right => routeLe left right = true :=
        ⟨fun _ _ => routeLe_antisymm⟩
      dsimp only
      rw [(hsorted _).destutter_eq_dedup]
      exact List.nodup_dedup _

/-! ## What a certificate authorizes -/

/-- Once each, the host route of the address, if that parses, and the advertised
subnets that parse, are no default route and are granted. -/
theorem authorizedPeerRoutes_exact (lib : Primitives) (cert : Cert) :
    (authorizedPeerRoutes lib cert).Nodup ∧
      ∀ route, route ∈ authorizedPeerRoutes lib cert ↔
        ∃ addrs, cert.body.addresses = some addrs ∧
          ((∃ network, lib.ipNetworkParse addrs.ip = some network ∧ route.ip = network.ip ∧
              route.prefixLen = network.ip.width) ∨
            ∃ subnet ∈ addrs.subnets, lib.ipNetworkParse subnet = some route ∧
              route.prefixLen ≠ 0 ∧ Granted lib cert route) := by
  refine ⟨nodup_authorizedPeerRoutes lib cert, ?_⟩
  intro route
  rw [mem_authorizedPeerRoutes_iff]
  simp only [hostRoute_eq_some_iff, routeGrantedByCert_iff, isDefaultRoute, decide_eq_false_iff_not,
    ne_eq]

end Liteway.Daemon
