import Firecracker.Dumbo.Handler
import Firecracker.Dumbo.Response
import Firecracker.Lib.AssocMap

/-!
# Firecracker.Dumbo.HandlerMaps

The bookkeeping of a `TcpIPv4Handler` is consistent over every run. Every active tuple and the
tuple of the remembered timeout is a key of `connections`. There are at most `max_connections`
endpoints and at most `max_pending_resets` queued `RST`s (`TcpIPv4Handler.Inv`). So the `unwrap`
and the index on `connections` in `write_next_packet` never fail. When moreover every endpoint
keeps its response bookkeeping (`Endpoint.Inv`, for responses of at most `MAX_WINDOW_SIZE`
bytes), `write_next_packet` never panics at all.

Each helper of the handler gets one lemma that says which fields it changes and how: a new
timeout tuple is the tuple at hand, a key, or the old one; a new active tuple is the tuple at
hand or an old one. The invariant is assembled from these.
-/

namespace Firecracker
namespace Dumbo
namespace TcpIPv4Handler

open Handler

variable {h h' : TcpIPv4Handler} {tuple : ConnectionTuple}

/-! ### What each helper changes -/

theorem foldl_nextTimeoutStep_mem (S : ConnectionTuple → Prop) :
    ∀ (l : List (Sigma fun _ : ConnectionTuple => Endpoint)) (acc : Option (BitVec 64 × ConnectionTuple)),
      (∀ x ∈ l, S x.1) → (∀ v t, acc = some (v, t) → S t) →
      ∀ v t, l.foldl (fun r x => nextTimeoutStep r x.1 x.2) acc = some (v, t) → S t
  | [], _, _, hacc => hacc
  | x :: l, acc, hl, hacc => by
    refine foldl_nextTimeoutStep_mem S l _ (fun y hy => hl y (List.mem_cons_of_mem _ hy)) ?_
    intro v t hstep
    dsimp only at hstep
    unfold nextTimeoutStep at hstep
    split at hstep
    · split at hstep
      · split at hstep
        · cases hstep
          exact hl x List.mem_cons_self
        · exact hacc v t hstep
      · cases hstep
        exact hl x List.mem_cons_self
    · exact hacc v t hstep

theorem findNextTimeout_mem {v : BitVec 64} {t : ConnectionTuple}
    (ht : h.findNextTimeout.nextTimeout = some (v, t)) : t ∈ h.connections :=
  foldl_nextTimeoutStep_mem (· ∈ h.connections) h.connections.entries none
    (fun x hx => AList.mem_keys.mpr (List.mem_keys_of_mem hx)) (fun _ _ hn => by cases hn) v t ht

theorem refreshTimeoutOf_eq (tuple : ConnectionTuple) :
    ∃ nt, h.refreshTimeoutOf tuple = { h with nextTimeout := nt } ∧
      ∀ v t, nt = some (v, t) → t ∈ h.connections ∨ (h.nextTimeout = some (v, t) ∧ t ≠ tuple) := by
  unfold refreshTimeoutOf
  split
  · rename_i value timeoutTuple hnt
    split
    · exact ⟨_, rfl, fun v t ht => .inl (findNextTimeout_mem ht)⟩
    · rename_i hne
      refine ⟨h.nextTimeout, rfl, fun v t ht => .inr ⟨ht, ?_⟩⟩
      rw [hnt] at ht
      cases ht
      exact fun heq => hne heq.symm
  · exact ⟨h.nextTimeout, rfl, fun v t ht => .inr ⟨ht, by simp_all⟩⟩

theorem checkTimeout_eq (value : BitVec 64) (tuple : ConnectionTuple) :
    ∃ nt, h.checkTimeout value tuple = { h with nextTimeout := nt } ∧
      ∀ v t, nt = some (v, t) → t = tuple ∨ h.nextTimeout = some (v, t) := by
  unfold checkTimeout
  split
  · split
    · exact ⟨_, rfl, fun v t ht => by cases ht; exact .inl rfl⟩
    · exact ⟨h.nextTimeout, rfl, fun v t ht => .inr ht⟩
  · exact ⟨_, rfl, fun v t ht => by cases ht; exact .inl rfl⟩

theorem checkNextSegmentStatus_eq (tuple : ConnectionTuple) (status : NextSegmentStatus) :
    ∃ nt act b, h.checkNextSegmentStatus tuple status =
        ({ h with nextTimeout := nt, activeConnections := act }, b) ∧
      (∀ t ∈ act, t = tuple ∨ t ∈ h.activeConnections) ∧
      (h.activeConnections.Nodup → act.Nodup) ∧
      ∀ v t, nt = some (v, t) → t = tuple ∨ t ∈ h.connections ∨ h.nextTimeout = some (v, t) := by
  obtain ⟨nt, hrefresh, hnt⟩ := refreshTimeoutOf_eq (h := h) tuple
  have hnt' : ∀ v t, nt = some (v, t) →
      t = tuple ∨ t ∈ h.connections ∨ h.nextTimeout = some (v, t) := fun v t ht =>
    (hnt v t ht).elim (fun hm => .inr (.inl hm)) (fun ⟨hold, _⟩ => .inr (.inr hold))
  unfold checkNextSegmentStatus
  rw [hrefresh]
  cases status with
  | available =>
    dsimp only
    refine ⟨nt, h.activeConnections.insert tuple, true, rfl, ?_, fun hnd => hnd.insert, hnt'⟩
    intro t ht
    exact List.mem_insert_iff.mp ht
  | timeout value =>
    dsimp only
    obtain ⟨nt₂, hcheck, hnt₂⟩ := checkTimeout_eq (h := { h with nextTimeout := nt }) value tuple
    rw [hcheck]
    refine ⟨nt₂, h.activeConnections, false, rfl, fun t ht => .inr ht, id, ?_⟩
    intro v t ht
    rcases hnt₂ v t ht with rfl | hold
    · exact .inl rfl
    · exact hnt' v t hold
  | nothing => exact ⟨nt, h.activeConnections, false, rfl, fun t ht => .inr ht, id, hnt'⟩

theorem updateActive_eq (tuple : ConnectionTuple) (status : NextSegmentStatus) :
    ∃ nt act, h.updateActive tuple status =
        { h with nextTimeout := nt, activeConnections := act } ∧
      (∀ t ∈ act, t = tuple ∨ t ∈ h.activeConnections) ∧
      (h.activeConnections.Nodup → act.Nodup) ∧
      ∀ v t, nt = some (v, t) → t = tuple ∨ t ∈ h.connections ∨ h.nextTimeout = some (v, t) := by
  obtain ⟨nt, act, b, hcheck, hact, hnd, hnt⟩ := checkNextSegmentStatus_eq (h := h) tuple status
  unfold updateActive
  rw [hcheck]
  cases b
  · refine ⟨nt, act.erase tuple, rfl, fun t ht => hact t (List.mem_of_mem_erase ht),
      fun hn => (hnd hn).erase _, hnt⟩
  · exact ⟨nt, act, rfl, hact, hnd, hnt⟩

theorem enqueueRstConfig_eq (tuple : ConnectionTuple) (cfg : RstConfig) :
    ∃ q, h.enqueueRstConfig tuple cfg = { h with rstQueue := q } ∧
      (h.rstQueue.length ≤ h.maxPendingResets → q.length ≤ h.maxPendingResets) := by
  unfold enqueueRstConfig
  split
  · rename_i hlt
    refine ⟨_, rfl, fun _ => ?_⟩
    simp only [List.length_append, List.length_singleton]
    omega
  · exact ⟨h.rstQueue, rfl, id⟩

/-! ### The invariant -/

/-- The bookkeeping of the handler: active tuples (no repetitions) and the timeout's tuple are
keys, and both tables stay within their bounds. -/
structure Inv (h : TcpIPv4Handler) : Prop where
  active_nodup : h.activeConnections.Nodup
  active_mem : ∀ t ∈ h.activeConnections, t ∈ h.connections
  timeout_mem : ∀ v t, h.nextTimeout = some (v, t) → t ∈ h.connections
  connections_le : h.connections.keys.length ≤ h.maxConnections
  rstQueue_le : h.rstQueue.length ≤ h.maxPendingResets

def EndpointsInv (h : TcpIPv4Handler) : Prop := ∀ x ∈ h.connections.entries, x.2.Inv

theorem Inv.updateActive (hi : h.Inv) (ht : tuple ∈ h.connections) (status : NextSegmentStatus) :
    (h.updateActive tuple status).Inv := by
  obtain ⟨nt, act, heq, hact, hnd, hnt⟩ := updateActive_eq (h := h) tuple status
  rw [heq]
  refine ⟨hnd hi.active_nodup, ?_, ?_, hi.connections_le, hi.rstQueue_le⟩
  · intro t hta
    rcases hact t hta with rfl | hold
    · exact ht
    · exact hi.active_mem t hold
  · intro v t hnv
    rcases hnt v t hnv with rfl | hm | hold
    · exact ht
    · exact hm
    · exact hi.timeout_mem v t hold

theorem removeConnection_eq (tuple : ConnectionTuple) :
    ∃ nt, h.removeConnection tuple =
      { h with
        nextTimeout := nt
        activeConnections := h.activeConnections.erase tuple
        connections := h.connections.erase tuple } ∧
      ∀ v t, nt = some (v, t) → t ∈ h.connections.erase tuple ∨
        (h.nextTimeout = some (v, t) ∧ t ≠ tuple) := by
  unfold removeConnection
  dsimp only
  obtain ⟨nt, hrefresh, hnt⟩ := refreshTimeoutOf_eq (h := { h with
    activeConnections := h.activeConnections.erase tuple
    connections := h.connections.erase tuple }) tuple
  exact ⟨nt, hrefresh, hnt⟩

theorem Inv.removeConnection (hi : h.Inv) (tuple : ConnectionTuple) :
    (h.removeConnection tuple).Inv := by
  obtain ⟨nt, heq, hnt⟩ := removeConnection_eq (h := h) tuple
  rw [heq]
  refine ⟨hi.active_nodup.erase _, ?_, ?_, ?_, hi.rstQueue_le⟩
  · intro t ht
    obtain ⟨hne, hmem⟩ := (hi.active_nodup.mem_erase_iff).mp ht
    exact AList.mem_erase.mpr ⟨hne, hi.active_mem t hmem⟩
  · intro v t hnv
    rcases hnt v t hnv with hm | ⟨hold, hne⟩
    · exact hm
    · exact AList.mem_erase.mpr ⟨hne, hi.timeout_mem v t hold⟩
  · exact AList.length_keys_erase_le.trans hi.connections_le

theorem Inv.addConnection (hi : h.Inv) (hnot : tuple ∉ h.connections)
    (hroom : h.connections.keys.length < h.maxConnections) (endpoint : Endpoint) :
    (h.addConnection tuple endpoint).Inv := by
  obtain ⟨nt, act, b, hcheck, hact, hnd, hnt⟩ :=
    checkNextSegmentStatus_eq (h := h) tuple endpoint.nextSegmentStatus
  unfold TcpIPv4Handler.addConnection
  rw [hcheck]
  refine ⟨hnd hi.active_nodup, ?_, ?_, ?_, hi.rstQueue_le⟩
  · intro t ht
    refine (AList.mem_insert _).mpr ?_
    rcases hact t ht with rfl | hold
    · exact .inl rfl
    · exact .inr (hi.active_mem t hold)
  · intro v t hnv
    refine (AList.mem_insert _).mpr ?_
    rcases hnt v t hnv with rfl | hm | hold
    · exact .inl rfl
    · exact .inr hm
    · exact .inr (hi.timeout_mem v t hold)
  · show (h.connections.insert tuple endpoint).keys.length ≤ h.maxConnections
    rw [AList.length_keys_insert_of_notMem hnot]
    omega

theorem Inv.enqueueRstConfig (hi : h.Inv) (tuple : ConnectionTuple) (cfg : RstConfig) :
    (h.enqueueRstConfig tuple cfg).Inv := by
  obtain ⟨q, heq, hq⟩ := enqueueRstConfig_eq (h := h) tuple cfg
  rw [heq]
  exact ⟨hi.active_nodup, hi.active_mem, hi.timeout_mem, hi.connections_le, hq hi.rstQueue_le⟩

theorem Inv.replace (hi : h.Inv) (tuple : ConnectionTuple) (endpoint : Endpoint) :
    ({ h with connections := h.connections.replace tuple endpoint } : TcpIPv4Handler).Inv := by
  refine ⟨hi.active_nodup, fun t ht => AList.mem_replace.mpr (hi.active_mem t ht),
    fun v t hnv => AList.mem_replace.mpr (hi.timeout_mem v t hnv), ?_, hi.rstQueue_le⟩
  show (h.connections.replace tuple endpoint).keys.length ≤ h.maxConnections
  rw [AList.keys_replace]
  exact hi.connections_le

theorem Inv.newConnection (hi : h.Inv) (hnot : tuple ∉ h.connections) {s : TcpSegment}
    {isn : BitVec 32} {now : BitVec 64} {ev : RecvEvent}
    (hn : h.newConnection tuple s isn now = some (h', ev)) : h'.Inv := by
  unfold TcpIPv4Handler.newConnection at hn
  split at hn
  · cases hn
    exact hi
  rename_i endpoint hnew
  split at hn
  · rename_i hfull
    split at hn
    · rename_i evictTuple hfind
      split at hn
      · rename_i evicted hlook
        cases hn
        have hevict : evictTuple ∈ h.connections := AList.mem_of_find? hfind
        obtain ⟨q, hq, -⟩ := enqueueRstConfig_eq (h := h) evictTuple
          evicted.connection.makeRstConfig
        have h₁ := hi.enqueueRstConfig evictTuple evicted.connection.makeRstConfig
        rw [hq] at h₁ ⊢
        have h₂ := h₁.removeConnection evictTuple
        obtain ⟨nt, hr, -⟩ := removeConnection_eq (h := { h with rstQueue := q }) evictTuple
        rw [hr] at h₂ ⊢
        refine h₂.addConnection ?_ ?_ endpoint
        · intro hmem
          exact hnot (AList.mem_erase.mp hmem).2
        · show (h.connections.erase evictTuple).keys.length < h.maxConnections
          have hpos : 0 < h.connections.keys.length :=
            List.length_pos_of_mem (AList.mem_keys.mp hevict)
          rw [AList.length_keys_erase_of_mem hevict]
          have := hi.connections_le
          omega
      · cases hn
    · cases hn
      exact hi.enqueueRstConfig _ _
  · cases hn
    exact hi.addConnection hnot (by omega) endpoint

theorem Inv.receivePacket (hi : h.Inv) {respond : List (BitVec 8) → List (BitVec 8)}
    {packet : Ipv4Packet} {isn : BitVec 32} {now : BitVec 64}
    {r : Except Handler.RecvError RecvEvent}
    (hr : h.receivePacket respond packet isn now = some (h', r)) : h'.Inv := by
  unfold TcpIPv4Handler.receivePacket at hr
  split at hr
  · cases hr
    exact hi
  rename_i tcp _
  split at hr
  · cases hr
    exact hi
  dsimp only at hr
  split at hr
  · rename_i endpoint hlook
    split at hr
    · cases hr
    rename_i endpoint' _
    have hmem := AList.mem_of_lookup_eq_some hlook
    have hi' := hi.replace ⟨packet.sourceAddress, tcp.sourcePort⟩ endpoint'
    split at hr
    · cases hr
      exact hi'.removeConnection _
    · cases hr
      exact hi'.updateActive (AList.mem_replace.mpr hmem) _
  · rename_i hlook
    have hnot := AList.lookup_eq_none.mp hlook
    split at hr
    · obtain ⟨⟨h₁, ev⟩, hn, heq⟩ := Option.map_eq_some_iff.mp hr
      cases heq
      exact hi.newConnection hnot hn
    split at hr
    · cases hr
      exact hi.enqueueRstConfig _ _
    · cases hr
      exact hi

theorem writeLoop_eq {bufLen : Nat} {now : BitVec 64} :
    ∀ {h : TcpIPv4Handler} {tuples : List ConnectionTuple} {h' : TcpIPv4Handler}
      {r : Option (ConnectionTuple × Nat × Bool)},
      writeLoop bufLen now h tuples = some (h', r) →
      ∃ conns : AList fun _ : ConnectionTuple => Endpoint,
        h' = { h with connections := conns } ∧ conns.keys = h.connections.keys ∧
        (∀ t n d, r = some (t, n, d) → t ∈ h.connections) ∧
        (h.EndpointsInv → ({ h with connections := conns } : TcpIPv4Handler).EndpointsInv)
  | h, [], h', r, hw => by
    cases hw
    refine ⟨h.connections, rfl, rfl, ?_, id⟩
    intro t n d hr
    cases hr
  | h, tuple :: rest, h', r, hw => by
    unfold writeLoop at hw
    split at hw
    · cases hw
    rename_i endpoint hlook
    have hmem := AList.mem_of_lookup_eq_some hlook
    have hentry : (⟨tuple, endpoint⟩ : Sigma fun _ : ConnectionTuple => Endpoint) ∈
        h.connections.entries := AList.mem_lookup_iff.mp (Option.mem_def.mpr hlook)
    have hrepl : ∀ e', (endpoint.writeNextSegment bufLen 0 now).map Prod.fst = some e' →
        h.EndpointsInv →
          ({ h with connections := h.connections.replace tuple e' } : TcpIPv4Handler).EndpointsInv := by
      intro e' hw' he x hx
      rcases AList.mem_entries_replace hx with rfl | hx
      · exact (he _ hentry).writeNextSegment hw'
      · exact he x hx
    split at hw
    · cases hw
    · rename_i e' hwrite
      obtain ⟨conns, rfl, hkeys, hr, he⟩ := writeLoop_eq hw
      refine ⟨conns, rfl, by rw [hkeys, AList.keys_replace], ?_, ?_⟩
      · intro t n d hrt
        exact AList.mem_replace.mp (hr t n d hrt)
      · intro hinv
        exact he (hrepl e' (by rw [hwrite]; rfl) hinv)
    · rename_i e' segment hwrite
      cases hw
      refine ⟨_, rfl, AList.keys_replace _ _ _, ?_, fun hinv => hrepl e' (by rw [hwrite]; rfl) hinv⟩
      intro t n d hrt
      cases hrt
      exact hmem

theorem Inv.writeNextPacket (hi : h.Inv) {bufLen : Nat} {now : BitVec 64}
    {r : Except Handler.WriteNextError (Option Nat × WriteEvent)}
    (hw : h.writeNextPacket bufLen now = some (h', r)) : h'.Inv := by
  unfold TcpIPv4Handler.writeNextPacket at hw
  split at hw
  · cases hw
    exact hi
  split at hw
  · have hq : h.rstQueue.dropLast.length ≤ h.maxPendingResets := by
      rw [List.length_dropLast]
      have := hi.rstQueue_le
      omega
    have hi' : ({ h with rstQueue := h.rstQueue.dropLast } : TcpIPv4Handler).Inv :=
      ⟨hi.active_nodup, hi.active_mem, hi.timeout_mem, hi.connections_le, hq⟩
    dsimp only at hw
    split at hw <;> (cases hw; exact hi')
  · split at hw
    · cases hw
    · rename_i h₁ hloop
      obtain ⟨conns, rfl, hkeys, -⟩ := writeLoop_eq hloop
      cases hw
      exact ⟨hi.active_nodup, fun t ht => AList.mem_keys.mpr (hkeys ▸ AList.mem_keys.mp
        (hi.active_mem t ht)), fun v t hnv => AList.mem_keys.mpr (hkeys ▸ AList.mem_keys.mp
        (hi.timeout_mem v t hnv)), hkeys ▸ hi.connections_le, hi.rstQueue_le⟩
    · rename_i h₁ tuple len isDone hloop
      obtain ⟨conns, rfl, hkeys, hr, -⟩ := writeLoop_eq hloop
      have hi₁ : ({ h with connections := conns } : TcpIPv4Handler).Inv :=
        ⟨hi.active_nodup, fun t ht => AList.mem_keys.mpr (hkeys ▸ AList.mem_keys.mp
          (hi.active_mem t ht)), fun v t hnv => AList.mem_keys.mpr (hkeys ▸ AList.mem_keys.mp
          (hi.timeout_mem v t hnv)), hkeys ▸ hi.connections_le, hi.rstQueue_le⟩
      have hmem : tuple ∈ conns :=
        AList.mem_keys.mpr (hkeys ▸ AList.mem_keys.mp (hr tuple len isDone rfl))
      split at hw
      · cases hw
        exact hi₁.removeConnection tuple
      · split at hw
        · cases hw
          exact hi₁.updateActive hmem _
        · cases hw

/-! ### The endpoints -/

@[simp] theorem connections_updateActive (tuple : ConnectionTuple) (status : NextSegmentStatus) :
    (h.updateActive tuple status).connections = h.connections := by
  obtain ⟨nt, act, heq, -⟩ := updateActive_eq (h := h) tuple status
  rw [heq]

@[simp] theorem connections_removeConnection (tuple : ConnectionTuple) :
    (h.removeConnection tuple).connections = h.connections.erase tuple := by
  obtain ⟨nt, heq, -⟩ := removeConnection_eq (h := h) tuple
  rw [heq]

@[simp] theorem connections_addConnection (tuple : ConnectionTuple) (endpoint : Endpoint) :
    (h.addConnection tuple endpoint).connections = h.connections.insert tuple endpoint := by
  obtain ⟨nt, act, b, hcheck, -⟩ :=
    checkNextSegmentStatus_eq (h := h) tuple endpoint.nextSegmentStatus
  unfold TcpIPv4Handler.addConnection
  rw [hcheck]

@[simp] theorem connections_enqueueRstConfig (tuple : ConnectionTuple) (cfg : RstConfig) :
    (h.enqueueRstConfig tuple cfg).connections = h.connections := by
  obtain ⟨q, heq, -⟩ := enqueueRstConfig_eq (h := h) tuple cfg
  rw [heq]

theorem EndpointsInv.of_entries (he : h.EndpointsInv)
    (hsub : ∀ x ∈ h'.connections.entries, x ∈ h.connections.entries ∨ x.2.Inv) :
    h'.EndpointsInv := by
  intro x hx
  rcases hsub x hx with hold | hnew
  · exact he x hold
  · exact hnew

theorem EndpointsInv.replace (he : h.EndpointsInv) (tuple : ConnectionTuple) {endpoint : Endpoint}
    (hinv : endpoint.Inv) :
    ({ h with connections := h.connections.replace tuple endpoint } : TcpIPv4Handler).EndpointsInv :=
  he.of_entries fun _ hx => (AList.mem_entries_replace hx).elim (fun hx => .inr (hx ▸ hinv)) .inl

theorem EndpointsInv.removeConnection (he : h.EndpointsInv) (tuple : ConnectionTuple) :
    (h.removeConnection tuple).EndpointsInv :=
  he.of_entries fun x hx => .inl (AList.mem_entries_erase (by simpa using hx))

theorem EndpointsInv.addConnection (he : h.EndpointsInv) (tuple : ConnectionTuple)
    {endpoint : Endpoint} (hinv : endpoint.Inv) : (h.addConnection tuple endpoint).EndpointsInv := by
  refine he.of_entries fun x hx => ?_
  rw [connections_addConnection] at hx
  exact (AList.mem_entries_insert hx).elim (fun hx => .inr (hx ▸ hinv)) .inl

theorem EndpointsInv.newConnection (he : h.EndpointsInv) {s : TcpSegment} {isn : BitVec 32}
    {now : BitVec 64} {ev : RecvEvent} (hn : h.newConnection tuple s isn now = some (h', ev)) :
    h'.EndpointsInv := by
  unfold TcpIPv4Handler.newConnection at hn
  split at hn
  · cases hn
    exact he
  rename_i endpoint hnew
  have hinv : endpoint.Inv := Endpoint.new_inv hnew
  split at hn
  · split at hn
    · split at hn
      · cases hn
        refine EndpointsInv.addConnection (EndpointsInv.removeConnection ?_ _) _ hinv
        exact he.of_entries fun x hx => .inl (by simpa using hx)
      · cases hn
    · cases hn
      exact he.of_entries fun x hx => .inl (by simpa [enqueueRst] using hx)
  · cases hn
    exact he.addConnection tuple hinv

theorem EndpointsInv.receivePacket {respond : List (BitVec 8) → List (BitVec 8)}
    (hrespond : ∀ request, (respond request).length ≤ maxWindowSize.toNat)
    (he : h.EndpointsInv) {packet : Ipv4Packet} {isn : BitVec 32} {now : BitVec 64}
    {r : Except Handler.RecvError RecvEvent}
    (hr : h.receivePacket respond packet isn now = some (h', r)) : h'.EndpointsInv := by
  unfold TcpIPv4Handler.receivePacket at hr
  split at hr
  · cases hr
    exact he
  rename_i tcp _
  split at hr
  · cases hr
    exact he
  dsimp only at hr
  split at hr
  · rename_i endpoint hlook
    split at hr
    · cases hr
    rename_i endpoint' hrecv
    have hinv : endpoint'.Inv :=
      (he _ (AList.mem_lookup_iff.mp hlook)).receiveSegment hrespond hrecv
    have he' := he.replace ⟨packet.sourceAddress, tcp.sourcePort⟩ hinv
    split at hr
    · cases hr
      exact he'.removeConnection _
    · cases hr
      exact he'.of_entries fun x hx => .inl (by simpa using hx)
  · split at hr
    · obtain ⟨⟨h₁, ev⟩, hn, heq⟩ := Option.map_eq_some_iff.mp hr
      cases heq
      exact he.newConnection hn
    split at hr
    · cases hr
      exact he.of_entries fun x hx => .inl (by simpa [enqueueRst] using hx)
    · cases hr
      exact he

theorem EndpointsInv.writeNextPacket (he : h.EndpointsInv) {bufLen : Nat} {now : BitVec 64}
    {r : Except Handler.WriteNextError (Option Nat × WriteEvent)}
    (hw : h.writeNextPacket bufLen now = some (h', r)) : h'.EndpointsInv := by
  unfold TcpIPv4Handler.writeNextPacket at hw
  split at hw
  · cases hw
    exact he
  split at hw
  · dsimp only at hw
    split at hw <;> (cases hw; exact he)
  · split at hw
    · cases hw
    · rename_i h₁ hloop
      obtain ⟨conns, rfl, -, -, hconns⟩ := writeLoop_eq hloop
      cases hw
      exact hconns he
    · rename_i h₁ tuple len isDone hloop
      obtain ⟨conns, rfl, -, -, hconns⟩ := writeLoop_eq hloop
      split at hw
      · cases hw
        exact (hconns he).removeConnection tuple
      · split at hw
        · cases hw
          exact (hconns he).of_entries fun x hx => .inl (by simpa using hx)
        · cases hw

/-! ### Runs -/

section Runs

variable {respond : List (BitVec 8) → List (BitVec 8)}

theorem new_inv (localIpv4Addr : BitVec 32) (localPort : BitVec 16)
    (maxConnections maxPendingResets : {n : Nat // n ≠ 0}) :
    (new localIpv4Addr localPort maxConnections maxPendingResets).Inv := by
  refine ⟨List.nodup_nil, fun _ ht => absurd ht List.not_mem_nil, ?_, Nat.zero_le _,
    Nat.zero_le _⟩
  intro v t ht
  cases ht

theorem Inv.step (hi : h.Inv) {op : HandlerOp} (hs : h.step respond op = some h') : h'.Inv := by
  cases op with
  | receivePacket packet isn now =>
    obtain ⟨⟨h₁, r⟩, hop, rfl⟩ := Option.map_eq_some_iff.mp hs
    exact hi.receivePacket hop
  | writeNextPacket bufLen now =>
    obtain ⟨⟨h₁, r⟩, hop, rfl⟩ := Option.map_eq_some_iff.mp hs
    exact hi.writeNextPacket hop

theorem reachable_inv (hreach : Run.Reachable (step respond) Created h) : h.Inv :=
  Run.Reachable.inv (fun _ _ _ hi hs => hi.step hs)
    (fun _ ⟨_, _, _, _, hnew⟩ => hnew ▸ new_inv _ _ _ _) hreach

theorem EndpointsInv.step (hrespond : ∀ request, (respond request).length ≤ maxWindowSize.toNat)
    (he : h.EndpointsInv) {op : HandlerOp} (hs : h.step respond op = some h') :
    h'.EndpointsInv := by
  cases op with
  | receivePacket packet isn now =>
    obtain ⟨⟨h₁, r⟩, hop, rfl⟩ := Option.map_eq_some_iff.mp hs
    exact he.receivePacket hrespond hop
  | writeNextPacket bufLen now =>
    obtain ⟨⟨h₁, r⟩, hop, rfl⟩ := Option.map_eq_some_iff.mp hs
    exact he.writeNextPacket hop

theorem reachable_endpointsInv
    (hrespond : ∀ request, (respond request).length ≤ maxWindowSize.toNat)
    (hreach : Run.Reachable (step respond) Created h) : h.EndpointsInv :=
  Run.Reachable.inv (fun _ _ _ he hs => he.step hrespond hs)
    (fun _ ⟨_, _, _, _, hnew⟩ _ hx => by simp [hnew, new] at hx) hreach

end Runs

/-! ### No panic in `write_next_packet` -/

theorem writeLoop_isSome {bufLen : Nat} {now : BitVec 64} :
    ∀ {h : TcpIPv4Handler} {tuples : List ConnectionTuple},
      h.EndpointsInv → (∀ t ∈ tuples, t ∈ h.connections) →
      (writeLoop bufLen now h tuples).isSome
  | _, [], _, _ => rfl
  | h, tuple :: rest, he, hts => by
    have hmem : tuple ∈ h.connections := hts tuple List.mem_cons_self
    obtain ⟨endpoint, hlook⟩ := Option.isSome_iff_exists.mp (AList.lookup_isSome.mpr hmem)
    have hinv : endpoint.Inv := he _ (AList.mem_lookup_iff.mp hlook)
    obtain ⟨⟨endpoint', segment⟩, hwrite⟩ :=
      Option.isSome_iff_exists.mp (hinv.writeNextSegment_isSome bufLen 0 now)
    unfold writeLoop
    rw [hlook]
    dsimp only
    rw [hwrite]
    cases segment with
    | none =>
      have hinv' : endpoint'.Inv := hinv.writeNextSegment (by rw [hwrite]; rfl)
      refine writeLoop_isSome (he.replace tuple hinv') fun t ht => ?_
      exact AList.mem_replace.mpr (hts t (List.mem_cons_of_mem _ ht))
    | some segment => rfl

/-- **`write_next_packet` never panics** on a handler whose bookkeeping holds and whose endpoints
keep theirs: the tuples the loop goes over, and the tuple it stops at, are keys. -/
theorem writeNextPacket_isSome (hi : h.Inv) (he : h.EndpointsInv) (bufLen : Nat)
    (now : BitVec 64) : (h.writeNextPacket bufLen now).isSome := by
  unfold TcpIPv4Handler.writeNextPacket
  split
  · rfl
  split
  · dsimp only
    split <;> rfl
  have hts : ∀ t ∈ h.activeConnections ++ (h.nextTimeout.map Prod.snd).toList,
      t ∈ h.connections := by
    intro t ht
    rcases List.mem_append.mp ht with ht | ht
    · exact hi.active_mem t ht
    · obtain ⟨⟨v, t'⟩, hnt, rfl⟩ := Option.map_eq_some_iff.mp (Option.mem_toList.mp ht)
      exact hi.timeout_mem v t' hnt
  obtain ⟨⟨h₁, r⟩, hloop⟩ := Option.isSome_iff_exists.mp (writeLoop_isSome he hts)
  rw [hloop]
  obtain ⟨conns, rfl, hkeys, hr, -⟩ := writeLoop_eq hloop
  rcases r with _ | ⟨tuple, len, isDone⟩
  · rfl
  dsimp only
  split
  · rfl
  have hmem : tuple ∈ conns :=
    AList.mem_keys.mpr (hkeys ▸ AList.mem_keys.mp (hr tuple len isDone rfl))
  obtain ⟨endpoint, hlook⟩ := Option.isSome_iff_exists.mp (AList.lookup_isSome.mpr hmem)
  rw [hlook]
  rfl

/-- **The handler's tables agree** in every state a run reaches, whatever the packets, the remote
tuples and the endpoints' answers: every active tuple and the tuple of the remembered timeout is a
key of `connections`, so the `unwrap` and the index of `write_next_packet` find their endpoint;
there are at most `max_connections` endpoints and at most `max_pending_resets` queued `RST`s. -/
theorem handler_consistent {respond : List (BitVec 8) → List (BitVec 8)}
    (hreach : Run.Reachable (step respond) Created h) :
    (∀ t ∈ h.activeConnections, t ∈ h.connections) ∧
    (∀ v t, h.nextTimeout = some (v, t) → t ∈ h.connections) ∧
    (∀ t ∈ h.activeConnections ++ (h.nextTimeout.map Prod.snd).toList,
      (h.connections.lookup t).isSome) ∧
    h.connections.keys.length ≤ h.maxConnections ∧
    h.rstQueue.length ≤ h.maxPendingResets := by
  have hi := reachable_inv hreach
  refine ⟨hi.active_mem, hi.timeout_mem, ?_, hi.connections_le, hi.rstQueue_le⟩
  intro t ht
  refine AList.lookup_isSome.mpr ?_
  rcases List.mem_append.mp ht with ht | ht
  · exact hi.active_mem t ht
  · obtain ⟨⟨v, t'⟩, hnt, rfl⟩ := Option.map_eq_some_iff.mp (Option.mem_toList.mp ht)
    exact hi.timeout_mem v t' hnt

/-- A handler for at most two connections, after a `SYN` from port 1000 of address 7 and the
write of the `SYNACK`. -/
theorem handler_consistent_afterSyn :
    ∃ h, Run.run (step fun _ => []) (new 1 80 ⟨2, by decide⟩ ⟨2, by decide⟩)
        [.receivePacket ⟨7, .ok ⟨1000, 80, ⟨0, 0, TcpFlags.syn, 1000, .ok none, []⟩⟩⟩ 100 0,
          .writeNextPacket 1500 1] = some h ∧
      (∀ t ∈ h.activeConnections, t ∈ h.connections) ∧
      (∀ v t, h.nextTimeout = some (v, t) → t ∈ h.connections) ∧
      (∀ t ∈ h.activeConnections ++ (h.nextTimeout.map Prod.snd).toList,
        (h.connections.lookup t).isSome) ∧
      h.connections.keys.length ≤ h.maxConnections ∧
      h.rstQueue.length ≤ h.maxPendingResets := by
  have hreach : Run.Reachable (step fun _ => []) Created _ :=
    (Run.Reachable.init ⟨1, 80, ⟨2, by decide⟩, ⟨2, by decide⟩, rfl⟩).run
      [.receivePacket ⟨7, .ok ⟨1000, 80, ⟨0, 0, TcpFlags.syn, 1000, .ok none, []⟩⟩⟩ 100 0,
        .writeNextPacket 1500 1] rfl
  exact ⟨_, rfl, handler_consistent hreach⟩

end TcpIPv4Handler

end Dumbo
end Firecracker
