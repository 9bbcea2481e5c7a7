import TokenTransfer.Proofs.Manager.Consistency

/-!
# Setting up a peer again

A peer that is set up as it was gets the same answer, and nothing in the manager changes but what
the limit on its chain has stored: the capacity is written back as it shows.  A capacity shows whole
units, so the fraction of a unit that had been gained by then is forgotten, and from then on the
capacity can be one unit behind what it would have been (`setPeer_again`).  It is behind exactly
while that fraction makes up a unit with what is gained after, and until the limit is full.

A limit that refills in an instant has no fractions.

## Main statements

* `setPeer_again` - what setting up a peer again changes
* `setPeer_again_forgets` - a unit of capacity that is not there because of it
-/

namespace TokenTransfer

namespace Manager

open Fallible

variable {m : Manager} {now : Timestamp}

/-- The parts of a manager agree after any run. -/
theorem Reachable.consistent (reachable : m.Reachable) : m.Consistent := by
  obtain ⟨settings, outboundLimit, start, run, rfl⟩ := reachable
  exact invariant_of_events (balanced_start settings outboundLimit start) run
    (fun e => e.consistent) (consistent_start settings outboundLimit start)

/-- A peer that is set up as it was stays, and so does its limit but for what is stored. -/
theorem runOn_setPeer_again {chain : ChainId} {peer : Peer} {limit : RateLimit}
    (foreign : chain ≠ m.settings.chain) (known : m.peers.find? chain = some peer)
    (limited : m.inbound.find? chain = some limit) (now : Timestamp) :
    (setPeer ⟨chain, peer.manager⟩ peer.tokenDecimals limit.limit now).runOn m =
      (.ok
        { chain
          manager := peer.manager
          tokenDecimals := peer.tokenDecimals
          inboundLimit := limit.limit },
        { m with inbound := m.inbound.insert chain (limit.setLimit limit.limit now) }) := by
  have peers : m.peers.insert chain peer = m.peers := Table.insert_of_find? known
  have limits : m.limitFor chain limit.limit now = limit.setLimit limit.limit now := by
    rw [limitFor, limited]
  unfold setPeer
  simp [runOn_bind, runOn_map, Except.map, foreign, peers, limits]

/-- **Setting up a peer again.**  It succeeds with the configuration that there is, and all that
changes is what the limit on the chain stores.  At later times its capacity is what it would have
been, but for the unit that the fraction forgotten `now` would have made up by then. -/
theorem setPeer_again (reachable : m.Reachable) {chain : ChainId} {peer : Peer}
    {limit : RateLimit} (known : m.peers.find? chain = some peer)
    (limited : m.inbound.find? chain = some limit) (since : limit.changed ≤ now) :
    ∃ config m' limit',
      (setPeer ⟨chain, peer.manager⟩ peer.tokenDecimals limit.limit now).runOn m =
        (.ok config, m') ∧
      m.peerConfig chain = some config ∧
      m' = { m with inbound := m.inbound.insert chain limit' } ∧
      limit'.limit = limit.limit ∧ limit'.duration = limit.duration ∧
      (limit.duration ≤ 0 → ∀ later, limit'.capacity later = limit.capacity later) ∧
      (0 < limit.duration → ∀ later, now ≤ later →
        limit.carried now later ≤ 1 ∧
        (limit.capacity later).toNat =
          min limit.limit.toNat ((limit'.capacity later).toNat + limit.carried now later)) := by
  have foreign : chain ≠ m.settings.chain := by
    rintro rfl
    exact reachable.consistent.foreign.1 (Table.contains_iff.mpr ⟨peer, known⟩)
  have config : m.peerConfig chain = some
      { chain
        manager := peer.manager
        tokenDecimals := peer.tokenDecimals
        inboundLimit := limit.limit } := by
    rw [peerConfig, known, limited]
    rfl
  refine ⟨_, _, _, runOn_setPeer_again foreign known limited now, config, rfl, rfl, rfl, ?_, ?_⟩
  · intro instant later
    rw [RateLimit.capacity_of_instant instant]
    exact RateLimit.capacity_of_instant (r := limit.setLimit limit.limit now) instant later
  · intro positive later le
    exact ⟨RateLimit.carried_le_one positive now later,
      RateLimit.toNat_capacity_eq_of_setLimit positive since le⟩

/-- The receiver with a limit of one unit on what comes in, which fills in two seconds and was just
used up. -/
def sampleTight : Manager :=
  (start { sampleTarget with duration := 2 } 5000000000 0).after
    [.setPeer ⟨sampleSource.chain, sampleSource.manager⟩ sampleSource.tokenDecimals 1 0,
      .setTransceiverPeer ⟨sampleSource.chain, sampleSource.transceiver⟩,
      .redeem (sampleDelivery 1 1) 0]

theorem reachable_sampleTight : sampleTight.Reachable :=
  (reachable_start { sampleTarget with duration := 2 } 5000000000 0).after _

/-- What the limit has stored when it is used up. -/
def sampleUsedUp : RateLimit := { limit := 1, stored := 0, changed := 0, duration := 2 }

theorem peer_sampleTight :
    sampleTight.peers.find? sampleSource.chain =
      some ⟨sampleSource.manager, sampleSource.tokenDecimals⟩ := by decide +kernel

theorem inbound_sampleTight :
    sampleTight.inbound.find? sampleSource.chain = some sampleUsedUp := by decide +kernel

/-- After half of the time, half of a unit is forgotten. -/
theorem setPeer_again_of_sample :
    ∃ config m' limit',
      (setPeer ⟨sampleSource.chain, sampleSource.manager⟩ sampleSource.tokenDecimals 1 1).runOn
          sampleTight = (.ok config, m') ∧
        m' = { sampleTight with inbound := sampleTight.inbound.insert sampleSource.chain limit' } ∧
        (sampleUsedUp.capacity 2).toNat = min 1 ((limit'.capacity 2).toNat + 1) := by
  have since : sampleUsedUp.changed ≤ 1 := by decide
  obtain ⟨config, m', limit', runs, -, after, -, -, -, later⟩ :=
    setPeer_again reachable_sampleTight peer_sampleTight inbound_sampleTight since
  exact ⟨config, m', limit', runs, after, (later (by decide) 2 (by decide)).2⟩

/-- **A unit of capacity is lost** by setting up a peer again: two seconds after the limit of one unit
was used up there would be a unit, and there is none when the peer was set up again in between. -/
theorem setPeer_again_forgets :
    sampleTight.Reachable ∧
      sampleTight.inbound.find? sampleSource.chain = some sampleUsedUp ∧
      sampleUsedUp.changed ≤ 1 ∧ sampleUsedUp.capacity 2 = 1 ∧
      ∃ config m',
        (setPeer ⟨sampleSource.chain, sampleSource.manager⟩ sampleSource.tokenDecimals 1 1).runOn
            sampleTight = (.ok config, m') ∧
          sampleTight.peerConfig sampleSource.chain = some config ∧
          (m'.inbound.find? sampleSource.chain).map (·.capacity 2) = some 0 := by
  have foreign : sampleSource.chain ≠ sampleTight.settings.chain := by decide +kernel
  have runs := runOn_setPeer_again foreign peer_sampleTight inbound_sampleTight 1
  refine ⟨reachable_sampleTight, inbound_sampleTight, by decide, by decide, _, _, runs, ?_, ?_⟩
  · decide +kernel
  · decide +kernel

end Manager

end TokenTransfer
