import SignOn.Proofs.Fleet.Lineage
import SignOn.Proofs.Fleet.Renewal
import SignOn.Proofs.Keyring.Rotation

/-!
# How long a signature is accepted

A signature is accepted while the secret it was made with is in effect. A rotation turns the current
secret into the previous one, so a signature outlasts the next rotation of a source that nobody
disturbs. A member of a fleet adopts at the end of a rotation what it reads from the store, and
others may have gone on meanwhile. Its signature outlasts a rotation that finds the record one
version further, and one that cannot read; but a member that is two versions late loses it in a
single rotation (`Signature.lost_by_late_member`).

Whatever happened between, a signature is accepted exactly if one of the secrets in effect gives the
payload the same code. `Signature.acceptance_across_rotations` puts these together.
-/

namespace SignOn

/-! ## Rotations in a fleet without outages -/

namespace Fleet

variable {ι : Type} [DecidableEq ι] {plan : FleetPlan ι} {order : ℕ → ι} {store : MemoryStore}
  {i : ι} {first last : ℕ} {before after : Member}

/-- A rotation leads to a later version of the record. -/
theorem Rolls.version_lt (hEmpty : store.find? plan.path = none)
    (h : (start store).Rolls plan (.connected order) i first last before after)
    (hRange : (start store).InRange plan (.connected order) last) :
    before.version.toInt < after.version.toInt := by
  have hPath : (start store : Fleet ι).OnPath plan := onPath_start plan store
  have hInvariant := linked_and_placed (Turn.connected order) hPath hEmpty
    (fun _ => rfl) (fun _ => rfl)
  have hPlaced := (hInvariant first (hRange.mono h.lt.le)).2 i
  rw [h.before] at hPlaced
  obtain ⟨-, known, ⟨n, hBegan, hKnown⟩, -⟩ := hPlaced
  obtain ⟨version, record, hReads, hAgrees⟩ := h.agrees hPath (fun _ => rfl) rfl
  have hFirst := (hInvariant n (hRange.mono (hBegan.trans h.lt).le)).1.inLine hKnown
  have hLast := (hInvariant last hRange).1.inLine hReads
  have hLater := h.writeCount_lt hPath (fun _ _ _ _ => rfl) hBegan hKnown
  rw [hAgrees.version, hFirst.1, hLast.1]
  omega

end Fleet

namespace Signature

/-- What is signed with the one keyring is accepted with the other, as the payload that it was. -/
def Honoured (payload : String) (keys keys' : Keyring) : Prop :=
  ∃ signed, sign keys payload = .ok signed ∧ verify keys' signed = .ok payload

variable {payload : String} {keys keys' : Keyring}

theorem honoured_of_mem (hPayload : payload ≠ "") (hMem : keys.current ∈ keys'.secrets) :
    Honoured payload keys keys' :=
  ⟨_, sign_of_ne hPayload keys, verify_of_sign (sign_of_ne hPayload keys) hMem⟩

theorem honoured_self (hPayload : payload ≠ "") (keys : Keyring) : Honoured payload keys keys :=
  honoured_of_mem hPayload (Keyring.mem_secrets.mpr (.inl rfl))

theorem honoured_of_previous (hPayload : payload ≠ "") (h : keys'.previous = some keys.current) :
    Honoured payload keys keys' :=
  honoured_of_mem hPayload (Keyring.mem_secrets.mpr (.inr h))

section Fleets

open Fleet (start Reads)

variable {ι : Type} [DecidableEq ι] {plan : FleetPlan ι} {store : MemoryStore} {i : ι}
  {first last : ℕ} {before after : Member}

/-- A rotation that cannot read ends with the announced secret and the one that was in effect. -/
theorem honoured_of_outage {schedule : ℕ → Turn ι} (hPayload : payload ≠ "")
    (h : (start store).Rolls plan schedule i first last before after)
    (hDown : (schedule last).outage ≠ none) : Honoured payload before.keys after.keys := by
  have hPath : (start store : Fleet ι).OnPath plan := Fleet.onPath_start plan store
  have hMove := Fleet.run_move schedule hPath last
  rw [h.ends, h.pushed hPath] at hMove
  have hAfter := hMove.of_pushed_down hDown
  rw [h.after] at hAfter
  cases hAfter
  exact honoured_of_previous hPayload rfl

end Fleets

/-- **How long a signature lasts.** A text is accepted as a payload exactly if it is that payload,
the mark and the base64 text of the payload's authentication code under the current or the previous
secret. So a payload that is signed, the mark itself included, is later accepted as that very
payload and as nothing else, and exactly if one of the two secrets then in effect gives it the code
that it was signed with. That is certain

* for a source that nobody disturbs, at once and after one more rotation, however many there were
  before;
* for a member of a fleet whose calls may fail and that others may disturb, at once, after a
  rotation that cannot read the record, and after one that reads a record with the secret it was
  signed with;
* for the members of a fleet whose calls do not fail, for every member at the place of the signing
  or the next one. A rotation of a member leads to a later place; where it is the next one, the
  signature outlasts the rotation. -/
theorem acceptance_across_rotations {payload : String} (hPayload : payload ≠ "") :
    (∀ keys signed found, verify keys signed = .ok found ↔
      ∃ secret, (secret = keys.current ∨ keys.previous = some secret) ∧
        signed = found ++ "&s=" ++
          Text.Base64.encode (Hash.hmac secret (Text.Utf8.encode found))) ∧
    (∀ keys, ∃ signed, sign keys payload = .ok signed ∧
      ∀ keys' found, verify keys' signed = .ok found ↔
        found = payload ∧ ∃ secret, (secret = keys'.current ∨ keys'.previous = some secret) ∧
          Hash.hmac secret (Text.Utf8.encode payload) =
            Hash.hmac keys.current (Text.Utf8.encode payload)) ∧
    (∀ (s : MemoryStore) (source : Source), source.Undisturbed s → ∀ n,
      let keys k := (source.rolled MemoryStore.asStore s k).1.keys
      Honoured payload (keys n) (keys n) ∧ Honoured payload (keys n) (keys (n + 1))) ∧
    (∀ (ι : Type) [DecidableEq ι] (plan : FleetPlan ι) (schedule : ℕ → Turn ι)
      (store : MemoryStore) (i : ι) (first last : ℕ) (before after : Member),
      (Fleet.start store).Rolls plan schedule i first last before after →
      Honoured payload before.keys before.keys ∧
      ((schedule last).outage ≠ none → Honoured payload before.keys after.keys) ∧
      ((schedule last).outage = none → ∃ version record,
        Fleet.Reads (((Fleet.start store).run plan schedule last).held plan) version record ∧
        after.Agrees version record ∧
        ((before.keys.current = record.current ∨ record.previous = some before.keys.current) →
          Honoured payload before.keys after.keys))) ∧
    ∀ (ι : Type) [DecidableEq ι] (plan : FleetPlan ι) (order : ℕ → ι) (store : MemoryStore),
      store.find? plan.path = none →
      let f n := (Fleet.start store).run plan (.connected order) n
      let inRange n := (Fleet.start store).InRange plan (.connected order) n
      (∀ n n', inRange n → inRange n' → ∀ i i' keys keys' a b,
        ((f n).phase i).keys? = some keys → ((f n).phase i).place? = some a →
        ((f n').phase i').keys? = some keys' → ((f n').phase i').place? = some b →
        b = a ∨ b = a + 1 → Honoured payload keys keys') ∧
      ∀ i first last before after,
        (Fleet.start store).Rolls plan (.connected order) i first last before after →
        inRange (last + 1) → before.version.toInt < after.version.toInt ∧
          (after.version.toInt = before.version.toInt + 1 →
            Honoured payload before.keys after.keys) := by
  refine ⟨fun keys signed found => ?_, fun keys => ?_, fun s source hSource n => ?_,
    fun ι _ plan schedule store i first last before after hRolls => ?_,
    fun ι _ plan order store hEmpty => ?_⟩
  · simp only [verify_eq_ok_iff, Keyring.mem_secrets, code, mark]
  · refine ⟨_, sign_of_ne hPayload keys, fun keys' found => ?_⟩
    simp only [verify_signed_iff, Keyring.mem_secrets]
  · exact ⟨honoured_self hPayload _, honoured_of_previous hPayload (hSource.previous_rolled n)⟩
  · refine ⟨honoured_self hPayload _, honoured_of_outage hPayload hRolls, fun hUp => ?_⟩
    obtain ⟨version, record, hReads, hAgrees⟩ :=
      hRolls.agrees (Fleet.onPath_start plan store) (fun _ => rfl) hUp
    refine ⟨version, record, hReads, hAgrees, fun hMem => honoured_of_mem hPayload ?_⟩
    rw [hAgrees.keys]
    exact Keyring.mem_secrets.mpr hMem
  · intro f inRange
    obtain ⟨S, r₀, hLineage⟩ := Fleet.exists_lineage plan order hEmpty
    have hPlaces : ∀ n n', inRange n → inRange n' → ∀ i i' keys keys' a b,
        ((f n).phase i).keys? = some keys → ((f n).phase i).place? = some a →
        ((f n').phase i').keys? = some keys' → ((f n').phase i').place? = some b →
        b = a ∨ b = a + 1 → Honoured payload keys keys' := by
      intro n n' hRange hRange' i i' keys keys' a b hKeys hPlace hKeys' hPlace' hNext
      have hSign := sign_of_ne hPayload keys
      exact ⟨_, hSign, (hLineage n hRange).verify_of_sign (hLineage n' hRange') hKeys hPlace hKeys'
        hPlace' hNext hSign⟩
    refine ⟨hPlaces, fun i first last before after hRolls hRange => ?_⟩
    have hFirst : inRange first := hRange.mono (Nat.le_succ_of_le hRolls.lt.le)
    refine ⟨hRolls.version_lt hEmpty (hRange.mono (Nat.le_succ last)), fun hNext => ?_⟩
    refine hPlaces first (last + 1) hFirst hRange i i _ _ _ _ ?_ ?_ ?_ ?_ (.inr hNext)
    · rw [hRolls.before]
      rfl
    · rw [hRolls.before]
      rfl
    · rw [hRolls.after]
      rfl
    · rw [hRolls.after]
      rfl

/-- One member founds a fleet and another one joins it; they rotate every second. -/
def pairOfMembers : (Result Source × Result Source) × MemoryStore :=
  let join i := Source.joinFleet MemoryStore.asStore "/secret" (.ofMillis 1000) 0
    (FleetPlan.two.generator i) 0 true
  let founded := join false {}
  let joined := join true founded.2
  ((founded.1, joined.1), joined.2)

/-- One member signs a text, the other one rotates twice, and then the first one rotates for the
first time. It does not accept its own signature any more. -/
theorem lost_by_late_member :
    ∃ early late s, pairOfMembers = ((.ok late, .ok early), s) ∧ late.isRotating = true ∧
      let rotated := late.roll MemoryStore.asStore (early.rolled MemoryStore.asStore s 2).2
      ∃ signed, sign late.keys "u=ann" = .ok signed ∧ verify late.keys signed = .ok "u=ann" ∧
        verify rotated.1.keys signed = .error ⟨.signature .mismatch, none⟩ := by
  have hPayload : "u=ann" ≠ "" := by decide
  refine ⟨_, _, _, rfl, rfl, _, sign_of_ne hPayload _, ?_, ?_⟩
  · exact verify_of_sign (sign_of_ne hPayload _) (Keyring.mem_secrets.mpr (.inl rfl))
  · decide +kernel

/-- A member founds a fleet and signs a text with the mark in it; and of two members that rotate at
the same time, the one that comes too late to write finds the record one version further. -/
theorem acceptance_across_rotations_joined :
    "a&s=b" ≠ "" ∧ MemoryStore.find? {} FleetPlan.two.path = none ∧
    (∃ source s, Source.joinFleet MemoryStore.asStore "/secret" (.ofMillis 1000) 0
        (FleetPlan.two.generator false) 0 true {} = (.ok source, s) ∧
      Honoured "a&s=b" source.keys (source.roll MemoryStore.asStore s).1.keys) ∧
    ∃ before after,
      (Fleet.start {}).Rolls .two (.connected Fleet.race) true 5 8 before after ∧
      (Fleet.start {}).InRange .two (.connected Fleet.race) 9 ∧
      after.version.toInt = before.version.toInt + 1 ∧
      Honoured "a&s=b" before.keys after.keys := by
  have hPayload : "a&s=b" ≠ "" := by decide
  have hEmpty : MemoryStore.find? {} FleetPlan.two.path = none := rfl
  obtain ⟨-, -, hUndisturbed, -, hFleet⟩ := acceptance_across_rotations hPayload
  refine ⟨hPayload, hEmpty, ?_, ?_⟩
  · obtain ⟨source, s, hJoin⟩ : ∃ source s, Source.joinFleet MemoryStore.asStore "/secret"
        (.ofMillis 1000) 0 (FleetPlan.two.generator false) 0 true {} = (.ok source, s) :=
      ⟨_, _, rfl⟩
    exact ⟨source, s, hJoin,
      (hUndisturbed s source (Source.undisturbed_joinFleet hJoin) 0).2⟩
  · let schedule := Turn.connected Fleet.race
    let f : Fleet Bool := Fleet.start {}
    have hRange : f.InRange .two schedule 9 := by decide +kernel
    have hIdle : ∀ n, n = 5 ∨ n = 9 → ((f.run .two schedule n).phase true).isIdle = true := by
      rintro n (rfl | rfl) <;> decide +kernel
    have hBusy : ∀ n, n = 6 ∨ n = 7 ∨ n = 8 →
        ((f.run .two schedule n).phase true).isIdle = false := by
      rintro n (rfl | rfl | rfl) <;> decide +kernel
    have hPlaces : ((f.run .two schedule 5).phase true).place? = some 0 ∧
        ((f.run .two schedule (8 + 1)).phase true).place? = some 1 := by decide +kernel
    obtain ⟨before, hBefore⟩ := Phase.isIdle_iff.mp (hIdle 5 (by decide))
    obtain ⟨after, hAfter⟩ := Phase.isIdle_iff.mp (hIdle (8 + 1) (by decide))
    have hRolls : f.Rolls .two schedule true 5 8 before after :=
      ⟨rfl, rfl, by decide, hBefore, hAfter, fun n _ _ => hBusy n (by omega)⟩
    rw [hBefore, hAfter] at hPlaces
    have hNext : after.version.toInt = before.version.toInt + 1 := by
      rw [Option.some.inj hPlaces.1, Option.some.inj hPlaces.2]
      rfl
    obtain ⟨-, hRolled⟩ := hFleet Bool .two Fleet.race {} hEmpty
    exact ⟨before, after, hRolls, hRange, hNext,
      (hRolled true 5 8 before after hRolls hRange).2 hNext⟩

end Signature

end SignOn
