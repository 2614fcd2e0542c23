import Liteway.Daemon.Changes
import Liteway.Daemon.Membership

/-!
# What a lighthouse knows

A lighthouse answers from its route table and its peer map, and all that is in them
stands for a certificate of the run.
-/

namespace Liteway.Daemon

open Liteway.Library Liteway.Core

variable {lib : Primitives}

/-! ## What a query is answered with -/

/-- A response for `recipient` that says where the node with the given address is. -/
structure LighthouseAnswer where
  recipient : UInt32
  targetIp : IpAddr
  peerId : UInt32
  described : PeerState

section Queries

variable (node : Node lib)

def routedPeer (st : NodeState) (targetIp : IpAddr) : Option (UInt32 × PeerState) := do
  let id ← st.routes.lookup targetIp
  let peer ← st.peers.lookup id
  pure (id, peer)

def introductions (lib : Primitives) (requesterId : UInt32) (requester : PeerState)
    (foundId : UInt32) : List LighthouseAnswer :=
  if foundId = requesterId then []
  else
    match primaryCertIp lib requester.cert with
    | none => []
    | some requesterIp => [⟨foundId, requesterIp, requesterId, requester⟩]

/-- The responses that a query leads to: the answer to the requester, and the
introduction sent to the target. -/
def lighthouseAnswers (st : NodeState) (requesterId : UInt32) (targetIp : IpAddr) :
    List LighthouseAnswer :=
  if !node.amLighthouse then []
  else
    match st.peers.lookup requesterId, routedPeer st targetIp with
    | some requester, some (foundId, found) =>
        ⟨requesterId, targetIp, foundId, found⟩ ::
          introductions lib requesterId requester foundId
    | _, _ => []

variable {node} {env : Env} {st : NodeState} {requesterId : UInt32} {targetIp : IpAddr}

theorem handleLighthouseQuery_of_answers
    (hanswers : lighthouseAnswers node st requesterId targetIp ≠ []) :
    handleLighthouseQuery node env st requesterId targetIp =
      forEach (fun i answer st => introduce node (env.part i) st answer.recipient answer.targetIp
        answer.peerId answer.described) 0 (lighthouseAnswers node st requesterId targetIp) st := by
  unfold lighthouseAnswers at hanswers ⊢
  unfold handleLighthouseQuery
  cases hmode : node.amLighthouse with
  | false =>
      rw [hmode] at hanswers
      contradiction
  | true =>
      simp only [hmode, Bool.not_true, Bool.false_eq_true, ↓reduceIte] at hanswers ⊢
      cases hrequester : st.peers.lookup requesterId with
      | none =>
          simp only [hrequester] at hanswers
          contradiction
      | some requester =>
          simp only [hrequester] at hanswers ⊢
          cases hfound : routedPeer st targetIp with
          | none =>
              simp only [hfound] at hanswers
              contradiction
          | some target =>
              obtain ⟨foundId, found⟩ := target
              have htarget : (do
                  let id ← st.routes.lookup targetIp
                  let peer ← st.peers.lookup id
                  pure (id, peer)) = some (foundId, found) := hfound
              simp only [htarget, introductions]
              by_cases hself : foundId = requesterId
              · simp [forEach, hself]
              · cases hip : primaryCertIp lib requester.cert <;> simp [forEach, hself]

theorem handleLighthouseQuery_of_no_answers
    (hanswers : lighthouseAnswers node st requesterId targetIp = []) :
    handleLighthouseQuery node env st requesterId targetIp = (st, []) ∨
      ∃ tx st', peerTx st requesterId = some (tx, st') ∧
        handleLighthouseQuery node env st requesterId targetIp =
          (st', (sendMessage node (env.part 0) (serializePacket
            (encryptLighthouseNotFoundPacket lib (env.rand []).sealing (env.rand []).padding tx.seq
              requesterId tx.sessionId targetIp node.networkKey tx.key)) tx.addr requesterId).2) := by
  unfold lighthouseAnswers at hanswers
  unfold handleLighthouseQuery
  cases hmode : node.amLighthouse with
  | false => exact Or.inl rfl
  | true =>
      simp only [hmode, Bool.not_true, Bool.false_eq_true, ↓reduceIte] at hanswers ⊢
      cases hrequester : st.peers.lookup requesterId with
      | none => exact Or.inl rfl
      | some requester =>
          simp only [hrequester] at hanswers ⊢
          cases hfound : routedPeer st targetIp with
          | some target =>
              simp only [hfound] at hanswers
              contradiction
          | none =>
              have htarget : (do
                  let id ← st.routes.lookup targetIp
                  let peer ← st.peers.lookup id
                  pure (id, peer)) = none := hfound
              simp only [htarget]
              cases htx : peerTx st requesterId with
              | none => exact Or.inl rfl
              | some out => exact Or.inr ⟨out.1, out.2, rfl, rfl⟩

end Queries

/-! ## What is checked -/

section Responses

variable (node : Node lib) (env : Env)

/-- The checks of `handle_lighthouse_response`. -/
structure PassesChecks (answer : LighthouseAnswer) : Prop where
  other : answer.peerId ≠ node.ourId
  valid : answer.described.cert.verify lib node.caVk env.unixTime = true
  named : nodeIdFromCert lib answer.described.cert = answer.peerId
  authorized : ∃ route ∈ authorizedPeerRoutes lib answer.described.cert,
    route.contains answer.targetIp = true

/-- What `handle_lighthouse_response` does once all its checks are passed. -/
def followResponse (st : NodeState) (peerId : UInt32) (peerAddr : SocketAddr) (peerCert : Cert) :
    NodeState × List Effect :=
  match st.peers.lookup peerId with
  | some peer => ({ st with peers := st.peers.insert peerId (learnDirectAddr peerAddr peer) }, [])
  | none => (startHandshake node env st peerAddr (some peerId) peerCert.body.info.name).2

theorem handleLighthouseResponse_eq (st : NodeState) (answer : LighthouseAnswer)
    [Decidable (PassesChecks node env answer)] :
    handleLighthouseResponse node env st answer.targetIp answer.peerId answer.described.addr
        answer.described.cert =
      if PassesChecks node env answer then
        followResponse node env st answer.peerId answer.described.addr answer.described.cert
      else (st, []) := by
  unfold handleLighthouseResponse
  split
  · rename_i hself
    exact (if_neg fun h => h.other hself).symm
  rename_i hother
  split
  · rename_i hinvalid
    refine (if_neg fun h => ?_).symm
    rw [h.valid] at hinvalid
    contradiction
  rename_i hvalid
  split
  · rename_i hmismatch
    exact (if_neg fun h => hmismatch h.named).symm
  rename_i hnamed
  split
  · rename_i hforeign
    refine (if_neg fun h => ?_).symm
    rw [List.any_eq_true.mpr h.authorized] at hforeign
    contradiction
  rename_i hauthorized
  simp only [Bool.not_eq_true', Bool.not_eq_false] at hvalid hauthorized
  exact (if_pos ⟨hother, hvalid, not_not.mp hnamed, List.any_eq_true.mp hauthorized⟩).symm

theorem handleLighthouseResponse_of_passes {answer : LighthouseAnswer}
    (h : PassesChecks node env answer) (st : NodeState) :
    handleLighthouseResponse node env st answer.targetIp answer.peerId answer.described.addr
        answer.described.cert =
      followResponse node env st answer.peerId answer.described.addr answer.described.cert := by
  classical
  rw [handleLighthouseResponse_eq, if_pos h]

theorem handleLighthouseResponse_of_refused {answer : LighthouseAnswer}
    (h : ¬ PassesChecks node env answer) (st : NodeState) :
    handleLighthouseResponse node env st answer.targetIp answer.peerId answer.described.addr
      answer.described.cert = (st, []) := by
  classical
  rw [handleLighthouseResponse_eq, if_neg h]

end Responses

/-! ## Certificates of a run -/

section Certificates

variable (node : Node lib)

def admitted : NodeState → List Event → List Cert
  | _, [] => []
  | st, event :: events =>
      ((installedBy node st event).map NewSession.cert).toList ++
        admitted (step node st event).1 events

theorem offeredBy_certified {st : NodeState} {event : Event} {session : NewSession}
    (hoffer : offeredBy node st event = some session) :
    session.id = nodeIdFromCert lib session.cert ∧
      ∃ env src data, event = .datagram env src data ∧
        session.cert.verify lib node.caVk env.unixTime = true := by
  cases event with
  | datagram env src data =>
      obtain ⟨packet, -, hoffered⟩ := Option.bind_eq_some_iff.mp hoffer
      suffices hcert : session.id = nodeIdFromCert lib session.cert ∧
          session.cert.verify lib node.caVk env.unixTime = true from
        ⟨hcert.1, env, src, data, rfl, hcert.2⟩
      unfold offered at hoffered
      split at hoffered
      · contradiction
      split at hoffered
      · unfold requested at hoffered
        split at hoffered
        · contradiction
        split at hoffered
        · contradiction
        rename_i response hprocess
        split at hoffered
        · contradiction
        cases hoffered
        obtain ⟨plaintext, hs1, -, hparse, -, rfl⟩ := processHandshake1_eq_ok_iff.mp hprocess
        obtain ⟨_, _, _, _, _, _, -, -, -, -, hverify, -⟩ := parseHandshake1_eq_ok_iff.mp hparse
        exact ⟨rfl, hverify⟩
      split at hoffered
      · unfold confirmed at hoffered
        split at hoffered
        · contradiction
        split at hoffered
        · contradiction
        rename_i result hprocess
        split at hoffered
        · contradiction
        cases hoffered
        obtain ⟨plaintext, hs2, -, hparse, rfl⟩ := processHandshake2_eq_ok_iff.mp hprocess
        obtain ⟨_, _, _, _, _, _, -, -, -, -, hverify, -⟩ := parseHandshake2_eq_ok_iff.mp hparse
        exact ⟨rfl, hverify⟩
      · contradiction
  | _ => contradiction

theorem verify_of_admitted {st : NodeState} {events : List Event} {cert : Cert}
    (hcert : cert ∈ admitted node st events) :
    ∃ env src data, Event.datagram env src data ∈ events ∧
      cert.verify lib node.caVk env.unixTime = true := by
  induction events generalizing st with
  | nil => contradiction
  | cons event events ih =>
      obtain hnow | hlater := List.mem_append.mp hcert
      · obtain ⟨session, hinstalled, rfl⟩ := Option.map_eq_some_iff.mp (Option.mem_toList.mp hnow)
        obtain ⟨-, env, src, data, rfl, hverify⟩ :=
          offeredBy_certified node (offeredBy_of_installedBy node hinstalled).1
        exact ⟨env, src, data, List.mem_cons_self, hverify⟩
      · obtain ⟨env, src, data, hmem, hverify⟩ := ih hlater
        exact ⟨env, src, data, List.mem_cons_of_mem _ hmem, hverify⟩

end Certificates

/-- Every live peer and every route stands for one of the certificates, under the
id that it names. -/
structure Certified (lib : Primitives) (certs : Cert → Prop) (st : NodeState) : Prop where
  peers : ∀ id peer, st.peers.lookup id = some peer →
    certs peer.cert ∧ nodeIdFromCert lib peer.cert = id
  routes : ∀ network id, (network, id) ∈ st.routes.routes →
    ∃ cert, certs cert ∧ nodeIdFromCert lib cert = id ∧ network ∈ authorizedPeerRoutes lib cert

section Invariant

variable {certs : Cert → Prop} {st : NodeState}

theorem Certified.congr {st' : NodeState} (h : Certified lib certs st) (hpeers : st'.peers = st.peers)
    (hroutes : st'.routes = st.routes) : Certified lib certs st' := by
  refine ⟨?_, ?_⟩
  · rw [hpeers]
    exact h.peers
  · rw [hroutes]
    exact h.routes

theorem Certified.retains {gone : List UInt32} {st' : NodeState} (h : Certified lib certs st)
    (hretains : Retains SameLink gone st st') : Certified lib certs st' where
  peers := by
    intro id after hafter
    obtain ⟨-, before, hbefore, hlink⟩ := hretains.only id after hafter
    rw [hlink.cert]
    exact h.peers id before hbefore
  routes := by
    intro network id hmem
    rw [hretains.routes] at hmem
    exact h.routes network id (List.mem_filter.mp hmem).1

theorem Certified.withSession (h : Certified lib certs st) (node : Node lib) (now : Instant)
    {session : NewSession} (hcert : certs session.cert)
    (hid : session.id = nodeIdFromCert lib session.cert) :
    Certified lib certs (withSession node now session st) where
  peers := by
    intro id peer hpeer
    rw [withSession_peers, AssocMap.lookup_insert_eq] at hpeer
    split at hpeer
    · rename_i hself
      cases hpeer
      rw [hself]
      exact ⟨hcert, hid.symm⟩
    · exact h.peers id peer hpeer
  routes := by
    intro network id hmem
    rw [routes_withSession] at hmem
    obtain ⟨hnetwork, rfl⟩ | ⟨-, hold⟩ := OwnerTable.mem_assignAll.mp hmem
    · exact ⟨session.cert, hcert, hid.symm, hnetwork⟩
    · exact h.routes network id hold

theorem Certified.addPeer (h : Certified lib certs st) (node : Node lib) (now : Instant)
    {session : NewSession}
    (hcert : acceptsSession node session st.peers = true → certs session.cert)
    (hid : session.id = nodeIdFromCert lib session.cert) :
    Certified lib certs (addPeer node now st session).2.1 := by
  cases haccept : acceptsSession node session st.peers with
  | false =>
      rw [addPeer_of_not_accepts haccept]
      exact h
  | true =>
      rw [addPeer_of_accepts haccept]
      exact h.withSession node now (hcert haccept) hid

theorem certified_step (node : Node lib) {event : Event} (h : Certified lib certs st)
    (hinstalls : ∀ session, installedBy node st event = some session → certs session.cert) :
    Certified lib certs (step node st event).1 := by
  have hoffers : ∀ session, offeredBy node st event = some session →
      (acceptsSession node session st.peers = true → certs session.cert) ∧
        session.id = nodeIdFromCert lib session.cert := by
    intro session hoffer
    exact ⟨fun haccept => hinstalls session (installedBy_of_offeredBy node hoffer haccept),
      (offeredBy_certified node hoffer).1⟩
  have hchange := @change_step _ node st event
  generalize (step node st event).1 = st' at hchange
  cases hchange with
  | @answered env src data packet response hfresh hoffer =>
      obtain ⟨hcert, hid⟩ := hoffers _ hoffer
      have hcached : Certified lib certs { afterFeed node env st src data with
          handshakeCache := (afterFeed node env st src data).handshakeCache.insert
            (lib.blake3Hash packet) response.msg (nodeIdFromCert lib response.peerCert) env.now } :=
        h.congr rfl rfl
      exact hcached.addPeer node env.now hcert hid
  | @concluded env src data sessionId session hfresh hoffer =>
      obtain ⟨hcert, hid⟩ := hoffers _ hoffer
      have hended : Certified lib certs
          { afterFeed node env st src data with pending := st.pending.erase sessionId } :=
        h.congr rfl rfl
      exact hended.addPeer node env.now hcert hid
  | accepted hfresh hoffer hpacket hheader haccepts =>
      obtain ⟨gone, -, hretains⟩ := haccepts.retains hpacket hheader
      exact h.retains hretains
  | retains hfresh hoffer hgone hretains => exact h.retains hretains.links
  | maintained hgone hretains => exact (h.retains hretains.links).congr rfl rfl

/-- After a run, all peers and routes stand for certificates that the run has
installed. -/
theorem certified_run (node : Node lib) {record : Record} {events : List Event}
    (h : Certified lib certs record.state)
    (hcerts : ∀ cert ∈ admitted node record.state events, certs cert) :
    Certified lib certs (runAll (Record.step node) record events).state := by
  induction events generalizing record with
  | nil => exact h
  | cons event events ih =>
      rw [runAll_cons]
      apply ih
      · apply certified_step node h
        intro session hinstalled
        apply hcerts
        apply List.mem_append_left
        rw [hinstalled]
        exact List.mem_singleton_self _
      · intro cert hcert
        exact hcerts cert (List.mem_append_right _ hcert)

end Invariant

end Liteway.Daemon
