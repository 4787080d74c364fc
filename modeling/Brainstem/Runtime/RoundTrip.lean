import Brainstem.Runtime.FailClosed

/-!
# The durable store keeps what it was given

A persist either replaces the whole blob by one that loads back as the state that was put in,
or fails and leaves every byte where it was.  Which of the two is `validate` alone, and the
same `validate` stands behind `load`, so whatever loads can be persisted again:

    s.validate = .ok ()  →  (persistMut J s).exec store = (.ok (), store')
                            with  store'.load J = .ok (some s)            (durable_round_trip)
-/

namespace Brainstem.Runtime

open Proc

namespace DurableStore

/-- `persist(&mut self, state)`: the blob is assigned after both steps that can fail. -/
def persistMut (J : SerdeJson) (state : DurableState) : Proc DurableStore Unit := do
  ofExcept state.validate
  let bytes ← ofExcept (encode J state)
  modify fun self => { self with blob := some bytes }

/-- The store that a valid state is seeded with. -/
def fromState (J : SerdeJson) (state : DurableState) : Except String DurableStore := do
  state.validate
  let (result, store) := (persistMut J state).exec empty
  result
  return store

/-! ## The two exits of persist -/

variable {J : SerdeJson} {s t : DurableState}

/-- In place or as a new value, it is the same store. -/
theorem exec_persistMut (store : DurableStore) : (persistMut J s).exec store =
    match store.persist J s with
    | .ok store' => (.ok (), store')
    | .error e => (.error e, store) := by
  unfold persistMut persist
  rw [exec_bind, exec_ofExcept]
  cases s.validate with
  | error e => rfl
  | ok u =>
    dsimp only
    rw [exec_bind, exec_ofExcept]
    cases encode J s with
    | error e => rfl
    | ok bytes => rfl

theorem persistMut_of_valid (hJ : J.RoundTrips) (store : DurableStore) (hv : s.validate = .ok ()) :
    ∃ store', (persistMut J s).exec store = (.ok (), store') ∧ store'.load J = .ok (some s) := by
  obtain ⟨store', hpersist, hload⟩ :=
    exists_persist hJ store ((DurableState.validate_eq_ok s).1 hv)
  refine ⟨store', ?_, hload⟩
  rw [exec_persistMut, hpersist]

theorem persistMut_of_invalid (store : DurableStore) (hv : s.validate ≠ .ok ()) :
    ∃ e, (persistMut J s).exec store = (.error e, store) := by
  rw [exec_persistMut]
  unfold persist
  cases hval : s.validate with
  | error e => exact ⟨e, rfl⟩
  | ok u => exact absurd hval hv

/-- Two states that leave one blob are one state. -/
theorem persistMut_injective (hJ : J.RoundTrips) {storeS storeT : DurableStore}
    (hs : s.validate = .ok ()) (ht : t.validate = .ok ())
    (hblob : ((persistMut J s).exec storeS).2.blob = ((persistMut J t).exec storeT).2.blob) :
    s = t := by
  obtain ⟨afterS, hexecS, hloadS⟩ := persistMut_of_valid hJ storeS hs
  obtain ⟨afterT, hexecT, hloadT⟩ := persistMut_of_valid hJ storeT ht
  rw [hexecS, hexecT] at hblob
  have hstore : afterS = afterT := by
    cases afterS
    cases afterT
    exact congrArg DurableStore.mk hblob
  rw [hstore, hloadT] at hloadS
  cases hloadS
  rfl

/-- Seeding succeeds on the valid states, and the seed loads back. -/
theorem fromState_eq_ok (hJ : J.RoundTrips) :
    (∃ store, fromState J s = .ok store ∧ store.load J = .ok (some s)) ↔ s.validate = .ok () := by
  constructor
  · rintro ⟨store, hstore, -⟩
    exact (Except.seq_eq_ok.1 hstore).1
  · intro hv
    obtain ⟨store, hexec, hload⟩ := persistMut_of_valid hJ empty hv
    refine ⟨store, Except.seq_eq_ok.2 ⟨hv, ?_⟩, hload⟩
    rw [hexec]
    rfl

end DurableStore

open DurableStore

/-! ## Round trip -/

/-- **Round trip and atomic persist.**  Over any contents of the store, a persist of a state
that passes `validate` succeeds and loads back exactly, and any other persist fails with the
blob as it was.  Whatever bytes load hold a valid state, which goes in and out again; and
different valid states leave different blobs. -/
theorem durable_round_trip {J : SerdeJson} (hJ : J.RoundTrips) :
    (∀ (store : DurableStore) (s : DurableState),
      (s.validate = .ok () → ∃ store',
        (persistMut J s).exec store = (.ok (), store') ∧ store'.load J = .ok (some s)) ∧
      (s.validate ≠ .ok () → ∃ e, (persistMut J s).exec store = (.error e, store))) ∧
    (∀ (blob : Bytes) (s : DurableState), DurableStore.load J ⟨some blob⟩ = .ok (some s) →
      s.validate = .ok () ∧ ∃ store',
        (persistMut J s).exec ⟨some blob⟩ = (.ok (), store') ∧ store'.load J = .ok (some s)) ∧
    (∀ (storeS storeT : DurableStore) (s t : DurableState),
      s.validate = .ok () → t.validate = .ok () → s ≠ t →
      ((persistMut J s).exec storeS).2.blob ≠ ((persistMut J t).exec storeT).2.blob) := by
  refine ⟨fun store s => ⟨persistMut_of_valid hJ store, persistMut_of_invalid store⟩, ?_, ?_⟩
  · intro blob s hload
    have hv : s.validate = .ok () := (DurableState.validate_eq_ok s).2 (valid_of_load hload)
    exact ⟨hv, persistMut_of_valid hJ ⟨some blob⟩ hv⟩
  · intro storeS storeT s t hs ht hne hblob
    exact hne (persistMut_injective hJ hs ht hblob)

/-- The JSON text of the state is read back, so all of it holds with that codec. -/
theorem durable_round_trip_json :
    (∃ store', (persistMut serdeJson .fresh).exec .empty = (.ok (), store') ∧
      store'.load serdeJson = .ok (some .fresh)) ∧
    ∃ e, (persistMut serdeJson { DurableState.fresh with committedTickSeq := 1 }).exec
      (.malformed [1, 2]) = (.error e, .malformed [1, 2]) :=
  ⟨((durable_round_trip serdeJson_roundTrips).1 .empty .fresh).1 (by decide),
    ((durable_round_trip serdeJson_roundTrips).1 (.malformed [1, 2])
      { DurableState.fresh with committedTickSeq := 1 }).2 (by decide)⟩

end Brainstem.Runtime
