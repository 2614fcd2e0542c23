import Liteway.Daemon.Threads

/-!
# What a section preserves

Each section of either thread keeps what holds between sections, whatever the
other thread is in the middle of.
-/

namespace Liteway.Daemon

open Liteway.Library Liteway.Core

namespace Threads

/-! ## The receive thread -/

section Receiving

variable {lib : Primitives} {node : Node lib} {t : Threads} {session : NewSession}

theorem invariant_install (h : t.Invariant) (hidle : t.receiver = .idle)
    (hfresh : session.rxSessionId ∉ t.offered)
    (horderly : ∀ drop ∈ t.maintainer.outstanding, drop.peerId ≠ session.id) {st : NodeState}
    (hheld : ∀ peerId, heldWith st peerId =
      if peerId = session.id then some session.rxSessionId else heldWith t.state peerId)
    (hsessions : st.rxSessions = t.state.rxSessions) (hroutes : st.routes = t.state.routes) :
    Invariant { t with
      state := st
      receiver := .sessions session (heldWith t.state session.id)
      offered := session.rxSessionId :: t.offered } := by
  have hunused : ∀ peerId, heldWith t.state peerId ≠ some session.rxSessionId :=
    fun peerId hpeer => hfresh (h.offered peerId _ hpeer)
  -- a session that is held now is the new one or an old one
  have hcases : ∀ {peerId rxSessionId}, heldWith st peerId = some rxSessionId →
      peerId = session.id ∧ rxSessionId = session.rxSessionId ∨
        peerId ≠ session.id ∧ heldWith t.state peerId = some rxSessionId := by
    intro peerId rxSessionId hpeer
    rw [hheld] at hpeer
    split at hpeer
    · rename_i hid
      exact Or.inl ⟨hid, (Option.some.inj hpeer).symm⟩
    · rename_i hid
      exact Or.inr ⟨hid, hpeer⟩
  constructor
  · intro rxSessionId peerId hentry
    rw [hsessions] at hentry
    obtain hpeer | ⟨_, hreceiver, -⟩ | hmaintainer := h.entries rxSessionId peerId hentry
    · by_cases hid : peerId = session.id
      · exact Or.inr (Or.inl ⟨session, by rw [← hid, hpeer], hid.symm⟩)
      · exact Or.inl ((hheld peerId).trans ((if_neg hid).trans hpeer))
    · rw [hidle] at hreceiver
      contradiction
    · exact Or.inr (Or.inr hmaintainer)
  · intro peerId rxSessionId hpeer
    rw [hsessions]
    obtain ⟨rfl, rfl⟩ | ⟨-, hold⟩ := hcases hpeer
    · exact Or.inr ⟨session, _, rfl, rfl, rfl⟩
    · obtain hfound | ⟨_, _, hreceiver, -⟩ := h.found peerId rxSessionId hold
      · exact Or.inl hfound
      · rw [hidle] at hreceiver
        contradiction
  · intro peerId hmentions
    rw [hroutes] at hmentions
    rw [hheld]
    split
    · exact Or.inl rfl
    · exact h.mentioned peerId hmentions
  · intro peerId peerId' rxSessionId hpeer hpeer'
    obtain ⟨rfl, rfl⟩ | ⟨-, hold⟩ := hcases hpeer
    · obtain ⟨rfl, -⟩ | ⟨-, hold'⟩ := hcases hpeer'
      · rfl
      · exact absurd hold' (hunused peerId')
    · obtain ⟨-, rfl⟩ | ⟨-, hold'⟩ := hcases hpeer'
      · exact absurd hold (hunused peerId)
      · exact h.distinct peerId peerId' rxSessionId hold hold'
  · intro peerId rxSessionId hpeer
    obtain ⟨-, rfl⟩ | ⟨-, hold⟩ := hcases hpeer
    · exact List.mem_cons_self
    · exact List.mem_cons_of_mem _ (h.offered peerId rxSessionId hold)
  · intro session' old hreceiver peerId rxSessionId hpeer
    cases hreceiver
    obtain ⟨rfl, rfl⟩ | ⟨hid, hold⟩ := hcases hpeer
    · exact ⟨⟨fun _ => rfl, fun _ => rfl⟩, hunused _⟩
    · refine ⟨⟨?_, fun heq => absurd heq hid⟩, fun hsame => ?_⟩
      · rintro rfl
        exact absurd hold (hunused peerId)
      · exact hid (h.distinct _ _ _ hold hsame)
  · intro peerId rxSessionId rest hmaintainer
    obtain ⟨hoffered, hother⟩ := h.removing peerId rxSessionId rest hmaintainer
    refine ⟨List.mem_cons_of_mem _ hoffered, fun other hpeer => ?_⟩
    obtain ⟨-, rfl⟩ | ⟨-, hold⟩ := hcases hpeer
    · exact hfresh hoffered
    · exact hother other hold
  · intro drop hdrop rxSessionId hpeer
    obtain ⟨hid, -⟩ | ⟨-, hold⟩ := hcases hpeer
    · exact absurd hid (horderly drop hdrop)
    · exact h.decided drop hdrop rxSessionId hold
  · exact h.faithful

theorem invariant_beginAdd (h : t.Invariant) (hidle : t.receiver = .idle) (now : Instant)
    (hfresh : session.rxSessionId ∉ t.offered)
    (horderly : acceptsSession node session t.state.peers = true →
      ∀ drop ∈ t.maintainer.outstanding, drop.peerId ≠ session.id) :
    (t.beginAdd node now session).Invariant := by
  unfold beginAdd addPeerPeers
  cases haccept : acceptsSession node session t.state.peers with
  | false =>
      simp only [Bool.false_eq_true, ↓reduceIte]
      refine ⟨h.entries, h.found, h.mentioned, h.distinct, ?_, h.adding, ?_, h.decided, h.faithful⟩
      · exact fun peerId rxSessionId hpeer =>
          List.mem_cons_of_mem _ (h.offered peerId rxSessionId hpeer)
      · intro peerId rxSessionId rest hmaintainer
        obtain ⟨hoffered, hother⟩ := h.removing peerId rxSessionId rest hmaintainer
        exact ⟨List.mem_cons_of_mem _ hoffered, hother⟩
  | true =>
      simp only [↓reduceIte]
      refine invariant_install h hidle hfresh (horderly haccept) (fun peerId => ?_) rfl rfl
      unfold heldWith
      rw [AssocMap.lookup_insert_eq]
      split
      · rfl
      · rfl

theorem lookup_addPeerSessions (old : Option UInt32) (session : NewSession) (st : NodeState)
    (rxSessionId : UInt32) :
    (addPeerSessions old session st).rxSessions.lookup rxSessionId =
      if rxSessionId = session.rxSessionId then some session.id
      else if old = some rxSessionId then none
      else st.rxSessions.lookup rxSessionId := by
  unfold addPeerSessions
  simp only [AssocMap.lookup_insert_eq]
  split
  · rfl
  · cases old with
    | none => simp
    | some old =>
        simp only [AssocMap.lookup_erase_eq, Option.some.injEq]
        by_cases hold : rxSessionId = old
        · rw [if_pos hold, if_pos hold.symm]
        · rw [if_neg hold, if_neg (Ne.symm hold)]

theorem invariant_addSessions (h : t.Invariant) {old : Option UInt32}
    (hreceiver : t.receiver = .sessions session old)
    (horderly : (t.state.peers.lookup session.id).isSome = true ∨ t.SessionAwaited session) :
    Invariant { t with
      state := addPeerSessions old session t.state
      receiver := .routes session } := by
  have hadding := h.adding session old hreceiver
  constructor
  · intro rxSessionId peerId hentry
    rw [lookup_addPeerSessions] at hentry
    split at hentry
    · rename_i hrx
      cases Option.some.inj hentry
      obtain hpresent | ⟨rest, hmaintainer⟩ := horderly
      · rw [← isSome_heldWith] at hpresent
        obtain ⟨held, hheld⟩ := Option.isSome_iff_exists.mp hpresent
        rw [hrx, ← (hadding _ held hheld).1.mpr rfl]
        exact Or.inl hheld
      · exact Or.inr (Or.inr ⟨rest, hrx ▸ hmaintainer⟩)
    split at hentry
    · contradiction
    rename_i hold
    obtain hpeer | ⟨session', hreceiver', -⟩ | hmaintainer := h.entries rxSessionId peerId hentry
    · exact Or.inl hpeer
    · cases hreceiver.symm.trans hreceiver'
      exact absurd rfl hold
    · exact Or.inr (Or.inr hmaintainer)
  · intro peerId rxSessionId hpeer
    obtain ⟨hmine, hother⟩ := hadding peerId rxSessionId hpeer
    refine Or.inl ?_
    rw [lookup_addPeerSessions]
    by_cases hrx : rxSessionId = session.rxSessionId
    · rw [if_pos hrx, hmine.mp hrx]
    · rw [if_neg hrx, if_neg hother]
      obtain hfound | ⟨session', old', hreceiver', -, heq⟩ := h.found peerId rxSessionId hpeer
      · exact hfound
      · cases hreceiver.symm.trans hreceiver'
        exact absurd heq.symm hrx
  · exact h.mentioned
  · exact h.distinct
  · exact h.offered
  · exact fun session' old' hreceiver' => nomatch hreceiver'
  · exact h.removing
  · exact h.decided
  · exact h.faithful

theorem invariant_addLast (h : t.Invariant)
    (hbefore : ∀ session old, t.receiver ≠ .sessions session old) {receiver : Receiver}
    (hafter : ∀ session old, receiver ≠ .sessions session old) {st : NodeState}
    (hpeers : st.peers = t.state.peers) (hsessions : st.rxSessions = t.state.rxSessions)
    (hroutes : ∀ peerId, st.routes.Mentions peerId →
      (heldWith t.state peerId).isSome = true ∨ t.RoutesAwaited peerId) :
    Invariant { t with state := st, receiver := receiver } := by
  have hheld : heldWith st = heldWith t.state := by
    funext peerId
    unfold heldWith
    rw [hpeers]
  constructor
  · intro rxSessionId peerId hentry
    rw [hsessions] at hentry
    rw [hheld]
    obtain hpeer | ⟨session', hreceiver, -⟩ | hmaintainer := h.entries rxSessionId peerId hentry
    · exact Or.inl hpeer
    · exact absurd hreceiver (hbefore _ _)
    · exact Or.inr (Or.inr hmaintainer)
  · intro peerId rxSessionId hpeer
    rw [hheld] at hpeer
    rw [hsessions]
    obtain hfound | ⟨session', old, hreceiver, -⟩ := h.found peerId rxSessionId hpeer
    · exact Or.inl hfound
    · exact absurd hreceiver (hbefore _ _)
  · rw [hheld]
    exact hroutes
  · rw [hheld]
    exact h.distinct
  · rw [hheld]
    exact h.offered
  · exact fun session' old hreceiver => absurd hreceiver (hafter _ _)
  · rw [hheld]
    exact h.removing
  · rw [hheld]
    exact h.decided
  · exact h.faithful

theorem invariant_continueAdd (h : t.Invariant) (horderly : t.Orderly node .receiver) :
    (t.continueAdd lib).Invariant := by
  unfold Orderly at horderly
  unfold continueAdd
  cases hreceiver : t.receiver with
  | idle => exact h
  | sessions session old =>
      simp only [hreceiver] at horderly ⊢
      exact invariant_addSessions h hreceiver horderly
  | routes session =>
      simp only [hreceiver] at horderly ⊢
      refine invariant_addLast h (by simp [hreceiver]) (by simp) rfl rfl fun peerId hmentions => ?_
      obtain hold | rfl := RouteTable.mentions_insertAll hmentions
      · exact h.mentioned peerId hold
      · rw [isSome_heldWith]
        exact horderly
  | lighthouses session =>
      exact invariant_addLast h (by simp [hreceiver]) (by simp) rfl rfl h.mentioned

end Receiving

/-! ## The maintenance thread -/

section Maintaining

variable {lib : Primitives} {node : Node lib} {t : Threads}

theorem heldWith_maintainPeersLocked (node : Node lib) (env : Env) (st : NodeState) :
    heldWith (maintainPeersLocked node env st) = heldWith st := by
  funext peerId
  unfold heldWith maintainPeersLocked
  rw [AssocMap.lookup_mapValues]
  cases st.peers.lookup peerId with
  | none => rfl
  | some peer =>
      exact congrArg some (sameSession_maintainPeer node (env.forPeer peerId) peerId peer).rxSessionId

theorem invariant_maintainPeers (h : t.Invariant) (env : Env) (hidle : t.maintainer = .drops []) :
    Invariant { t with
      state := maintainPeersLocked node env t.state
      maintainer := .drops (decideDrops node env t.state) } := by
  have hheld := heldWith_maintainPeersLocked node env t.state
  constructor
  · intro rxSessionId peerId hentry
    rw [hheld]
    obtain hpeer | hreceiver | ⟨rest, hmaintainer⟩ := h.entries rxSessionId peerId hentry
    · exact Or.inl hpeer
    · exact Or.inr (Or.inl hreceiver)
    · rw [hidle] at hmaintainer
      contradiction
  · rw [hheld]
    exact h.found
  · intro peerId hmentions
    rw [hheld]
    obtain hpresent | ⟨_, _, hmaintainer⟩ | ⟨_, hmaintainer⟩ := h.mentioned peerId hmentions
    · exact Or.inl hpresent
    · rw [hidle] at hmaintainer
      contradiction
    · rw [hidle] at hmaintainer
      contradiction
  · rw [hheld]
    exact h.distinct
  · rw [hheld]
    exact h.offered
  · rw [hheld]
    exact h.adding
  · exact fun peerId rxSessionId rest hmaintainer => nomatch hmaintainer
  · intro drop hdrop rxSessionId hpeer
    rw [hheld] at hpeer
    obtain ⟨peerId, -, rfl⟩ := List.mem_map.mp hdrop
    exact hpeer
  · exact h.faithful

theorem invariant_removePeers (h : t.Invariant) {drop : Drop} {rest : List Drop}
    (hmaintainer : t.maintainer = .drops (drop :: rest)) {rxSessionId : UInt32}
    (hremoved : heldWith t.state drop.peerId = some rxSessionId) {st : NodeState}
    (hheld : ∀ peerId, heldWith st peerId =
      if peerId = drop.peerId then none else heldWith t.state peerId)
    (hsessions : st.rxSessions = t.state.rxSessions) (hroutes : st.routes = t.state.routes) :
    Invariant { t with
      state := st
      maintainer := .sessions drop.peerId rxSessionId rest
      removals := (drop, rxSessionId) :: t.removals } := by
  have hcases : ∀ {peerId rxSessionId}, heldWith st peerId = some rxSessionId →
      peerId ≠ drop.peerId ∧ heldWith t.state peerId = some rxSessionId := by
    intro peerId rxSessionId hpeer
    rw [hheld] at hpeer
    split at hpeer
    · contradiction
    · rename_i hid
      exact ⟨hid, hpeer⟩
  have hdecided := h.decided
  rw [hmaintainer] at hdecided
  constructor
  · intro rxSessionId' peerId hentry
    rw [hsessions] at hentry
    obtain hpeer | hreceiver | ⟨_, hother⟩ := h.entries rxSessionId' peerId hentry
    · by_cases hid : peerId = drop.peerId
      · subst hid
        cases Option.some.inj (hremoved.symm.trans hpeer)
        exact Or.inr (Or.inr ⟨rest, rfl⟩)
      · exact Or.inl ((hheld peerId).trans ((if_neg hid).trans hpeer))
    · exact Or.inr (Or.inl hreceiver)
    · rw [hmaintainer] at hother
      contradiction
  · intro peerId rxSessionId' hpeer
    rw [hsessions]
    exact h.found peerId rxSessionId' (hcases hpeer).2
  · intro peerId hmentions
    rw [hroutes] at hmentions
    rw [hheld]
    split
    · rename_i hid
      exact Or.inr (Or.inl ⟨rxSessionId, rest, by rw [hid]⟩)
    · obtain hpresent | ⟨_, _, hother⟩ | ⟨_, hother⟩ := h.mentioned peerId hmentions
      · exact Or.inl hpresent
      · rw [hmaintainer] at hother
        contradiction
      · rw [hmaintainer] at hother
        contradiction
  · exact fun peerId peerId' rxSessionId' hpeer hpeer' =>
      h.distinct peerId peerId' rxSessionId' (hcases hpeer).2 (hcases hpeer').2
  · exact fun peerId rxSessionId' hpeer => h.offered peerId rxSessionId' (hcases hpeer).2
  · exact fun session old hreceiver peerId rxSessionId' hpeer =>
      h.adding session old hreceiver peerId rxSessionId' (hcases hpeer).2
  · intro peerId rxSessionId' rest' hother
    cases hother
    refine ⟨h.offered _ _ hremoved, fun other hpeer => ?_⟩
    obtain ⟨hid, hold⟩ := hcases hpeer
    exact hid (h.distinct _ _ _ hold hremoved)
  · exact fun other hother rxSessionId' hpeer =>
      hdecided other (List.mem_cons_of_mem _ hother) rxSessionId' (hcases hpeer).2
  · intro removal hremoval
    obtain rfl | hold := List.mem_cons.mp hremoval
    -- the drop takes the session that its decision was about
    · exact hdecided drop List.mem_cons_self rxSessionId hremoved
    · exact h.faithful removal hold

theorem invariant_removeSessions (h : t.Invariant) {peerId rxSessionId : UInt32} {rest : List Drop}
    (hmaintainer : t.maintainer = .sessions peerId rxSessionId rest) :
    Invariant { t with
      state := removePeerSessions rxSessionId t.state
      maintainer := .routes peerId rest } := by
  obtain ⟨-, hnone⟩ := h.removing peerId rxSessionId rest hmaintainer
  have hdecided := h.decided
  rw [hmaintainer] at hdecided
  have hlookup : ∀ other, (removePeerSessions rxSessionId t.state).rxSessions.lookup other =
      if other = rxSessionId then none else t.state.rxSessions.lookup other :=
    fun other => AssocMap.lookup_erase_eq _ _ _
  constructor
  · intro other peerId' hentry
    rw [hlookup] at hentry
    split at hentry
    · contradiction
    rename_i hother
    obtain hpeer | hreceiver | ⟨_, hsame⟩ := h.entries other peerId' hentry
    · exact Or.inl hpeer
    · exact Or.inr (Or.inl hreceiver)
    · cases hmaintainer.symm.trans hsame
      exact absurd rfl hother
  · intro peerId' other hpeer
    have hother : other ≠ rxSessionId := by
      rintro rfl
      exact hnone peerId' hpeer
    rw [hlookup, if_neg hother]
    exact h.found peerId' other hpeer
  · intro peerId' hmentions
    obtain hpresent | ⟨_, _, hsame⟩ | ⟨_, hsame⟩ := h.mentioned peerId' hmentions
    · exact Or.inl hpresent
    · cases hmaintainer.symm.trans hsame
      exact Or.inr (Or.inr ⟨rest, rfl⟩)
    · cases hmaintainer.symm.trans hsame
  · exact h.distinct
  · exact h.offered
  · exact h.adding
  · exact fun peerId rxSessionId rest hother => nomatch hother
  · exact hdecided
  · exact h.faithful

theorem invariant_removeLast (h : t.Invariant)
    (hbefore : ∀ peerId rxSessionId rest, t.maintainer ≠ .sessions peerId rxSessionId rest)
    {maintainer : Maintainer}
    (hafter : ∀ peerId rxSessionId rest, maintainer ≠ .sessions peerId rxSessionId rest)
    (houtstanding : ∀ drop ∈ maintainer.outstanding, drop ∈ t.maintainer.outstanding)
    {st : NodeState} (hpeers : st.peers = t.state.peers)
    (hsessions : st.rxSessions = t.state.rxSessions)
    (hroutes : ∀ peerId, st.routes.Mentions peerId → (heldWith t.state peerId).isSome = true) :
    Invariant { t with state := st, maintainer := maintainer } := by
  have hheld : heldWith st = heldWith t.state := by
    funext peerId
    unfold heldWith
    rw [hpeers]
  constructor
  · intro rxSessionId peerId hentry
    rw [hsessions] at hentry
    rw [hheld]
    obtain hpeer | hreceiver | ⟨_, hmaintainer⟩ := h.entries rxSessionId peerId hentry
    · exact Or.inl hpeer
    · exact Or.inr (Or.inl hreceiver)
    · exact absurd hmaintainer (hbefore _ _ _)
  · rw [hheld, hsessions]
    exact h.found
  · rw [hheld]
    exact fun peerId hmentions => Or.inl (hroutes peerId hmentions)
  · rw [hheld]
    exact h.distinct
  · rw [hheld]
    exact h.offered
  · rw [hheld]
    exact h.adding
  · exact fun peerId rxSessionId rest hmaintainer => absurd hmaintainer (hafter _ _ _)
  · rw [hheld]
    exact fun drop hdrop => h.decided drop (houtstanding drop hdrop)
  · exact h.faithful

theorem Invariant.mentioned_present (h : t.Invariant) {peerId : UInt32}
    (hmentions : t.state.routes.Mentions peerId) (hawaited : ¬ t.RoutesAwaited peerId) :
    (heldWith t.state peerId).isSome = true := by
  obtain hpresent | hother := h.mentioned peerId hmentions
  · exact hpresent
  · exact absurd hother hawaited

theorem invariant_continueDrops (h : t.Invariant) : t.continueDrops.Invariant := by
  unfold continueDrops
  cases hmaintainer : t.maintainer with
  | drops outstanding =>
      cases outstanding with
      | nil => exact h
      | cons drop rest =>
          simp only
          unfold removePeerPeers
          cases hpeer : t.state.peers.lookup drop.peerId with
          | none =>
              refine invariant_removeLast h (by simp [hmaintainer]) (by simp) ?_ rfl rfl ?_
              · rw [hmaintainer]
                exact fun other hother => List.mem_cons_of_mem _ hother
              · exact fun peerId hmentions =>
                  h.mentioned_present hmentions (by simp [RoutesAwaited, hmaintainer])
          | some peer =>
              refine invariant_removePeers h hmaintainer ?_ (fun peerId => ?_) rfl rfl
              · unfold heldWith
                rw [hpeer]
                rfl
              · unfold heldWith
                rw [AssocMap.lookup_erase_eq]
                split
                · rfl
                · rfl
  | sessions peerId rxSessionId rest => exact invariant_removeSessions h hmaintainer
  | routes peerId rest =>
      refine invariant_removeLast h (by simp [hmaintainer]) (by simp) ?_ rfl rfl ?_
      · rw [hmaintainer]
        exact fun other hother => hother
      · intro other hmentions
        obtain ⟨hold, hother⟩ := RouteTable.mentions_removePeer hmentions
        refine h.mentioned_present hold ?_
        rintro (⟨_, _, hsame⟩ | ⟨_, hsame⟩)
        · cases hmaintainer.symm.trans hsame
        · cases hmaintainer.symm.trans hsame
          exact hother rfl
  | lighthouses peerId rest =>
      refine invariant_removeLast h (by simp [hmaintainer]) (by simp) ?_ rfl rfl ?_
      · rw [hmaintainer]
        exact fun other hother => hother
      · exact fun other hmentions =>
          h.mentioned_present hmentions (by simp [RoutesAwaited, hmaintainer])

end Maintaining

end Threads

end Liteway.Daemon
