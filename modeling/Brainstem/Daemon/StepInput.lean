import Brainstem.Daemon.Effects
import Brainstem.Daemon.Entry

/-!
# What the network step is given

Whatever the source returns and whoever else uses the queues, a call of `network.step` gets
one finite value for each channel and four finite modulators, and the values are those of
the packet drained in the same tick (`slot`): the reused buffer leaves no trace.

    call.stimuli = (List.range n).map (slot packet)                     (step_preconditions)
-/

namespace Brainstem.Daemon

open Brainstem.Health
open Brainstem.Ingress hiding Instant

variable {Network Entropy : Type} {nm : Neuromod Network Entropy} {fl : ℚ → ℚ}

/-- What channel `i` gets from a packet: zero beyond its length and where it is masked. -/
def slot (packet : IngressPacket) (i : ℕ) : F32 :=
  if packet.validMask.any fun mask => mask[i]? == some false then 0 else packet.stimuli.getD i 0

/-! ## Decoding -/

theorem maskLoop_length (valid : List (Bool × ℕ)) (stimuli : List F32) :
    (valid.foldl (fun stimuli valid => if valid.1 then stimuli else stimuli.set valid.2 0)
      stimuli).length = stimuli.length := by
  induction valid generalizing stimuli with
  | nil => rfl
  | cons v valid ih =>
    rw [List.foldl_cons, ih]
    split
    · rfl
    · rw [List.length_set]

theorem take_zipIdx {α : Type} (l : List α) (n : ℕ) : l.zipIdx.take n = (l.take n).zipIdx := by
  apply List.ext_getElem?
  intro i
  rw [List.getElem?_take, List.getElem?_zipIdx, List.getElem?_zipIdx, List.getElem?_take]
  split <;> rfl

/-- The mask loop, started at channel `k`. -/
theorem maskLoop_getElem? (mask : List Bool) (k : ℕ) (stimuli : List F32) {i : ℕ}
    (hi : i < stimuli.length) :
    ((mask.zipIdx k).foldl (fun stimuli valid => if valid.1 then stimuli else stimuli.set valid.2 0)
      stimuli)[i]? = if k ≤ i ∧ mask[i - k]? = some false then some 0 else stimuli[i]? := by
  induction mask generalizing k stimuli with
  | nil => simp
  | cons b mask ih =>
    rw [List.zipIdx_cons, List.foldl_cons, ih]
    · by_cases hk : i = k
      · subst hk
        cases b <;> simp [hi]
      · -- the head of the mask is about channel `k` only
        have hset : (if b = true then stimuli else stimuli.set k 0)[i]? = stimuli[i]? := by
          split
          · rfl
          · exact List.getElem?_set_ne (Ne.symm hk)
        rw [hset]
        by_cases hlt : k + 1 ≤ i
        · have hsub : i - k = i - (k + 1) + 1 := by omega
          have hle : k ≤ i := by omega
          rw [hsub, List.getElem?_cons_succ]
          simp [hlt, hle]
        · have hle : ¬k ≤ i := by omega
          simp [hlt, hle]
    · split
      · exact hi
      · rw [List.length_set]
        exact hi

/-- The copy, and the zeros after it. -/
theorem copy_getElem? (readout stimuli : List F32) {i : ℕ} (hi : i < stimuli.length) :
    (let upto := min readout.length stimuli.length
      let copied := readout.take upto ++ stimuli.drop upto
      if readout.length < stimuli.length then
        copied.take upto ++ List.replicate (stimuli.length - upto) 0
      else copied)[i]? = some (readout.getD i 0) := by
  simp only
  split
  · next hlt =>
    rw [Nat.min_eq_left (Nat.le_of_lt hlt), List.take_length,
      List.take_append_of_le_length (Nat.le_refl _), List.take_length, List.getElem?_append,
      List.getD_eq_getElem?_getD]
    split
    · next h => rw [List.getElem?_eq_getElem h, Option.getD_some]
    · next h =>
      rw [List.getElem?_replicate, if_pos (by omega), List.getElem?_eq_none (by omega),
        Option.getD_none]
  · next hge =>
    have hlen : i < readout.length := by omega
    rw [Nat.min_eq_right (by omega), List.drop_length, List.append_nil,
      List.getElem?_take_of_lt hi, List.getD_eq_getElem?_getD, List.getElem?_eq_getElem hlen,
      Option.getD_some]

theorem copy_length (readout stimuli : List F32) :
    (let upto := min readout.length stimuli.length
      let copied := readout.take upto ++ stimuli.drop upto
      if readout.length < stimuli.length then
        copied.take upto ++ List.replicate (stimuli.length - upto) 0
      else copied).length = stimuli.length := by
  simp only
  split
  · simp only [List.length_append, List.length_take, List.length_drop, List.length_replicate]
    omega
  · simp only [List.length_append, List.length_take, List.length_drop]
    omega

/-- **The buffer after decoding depends on the packet and on its own length only.** -/
theorem decodeInputs_stimuli (packet : IngressPacket) (stimuli : List F32) :
    (decodeInputs nm packet stimuli).2 = (List.range stimuli.length).map (slot packet) := by
  have hsnd : (decodeInputs nm packet stimuli).2 =
      (let upto := min packet.stimuli.length stimuli.length
        let copied := packet.stimuli.take upto ++ stimuli.drop upto
        let copied :=
          if packet.stimuli.length < stimuli.length then
            copied.take upto ++ List.replicate (stimuli.length - upto) 0
          else copied
        packet.validMask.elim copied fun mask =>
          (mask.zipIdx.take stimuli.length).foldl
            (fun stimuli valid => if valid.1 then stimuli else stimuli.set valid.2 0) copied) := by
    unfold decodeInputs
    simp only
    cases packet.validMask <;> split <;> rfl
  have hlen := copy_length packet.stimuli stimuli
  have hget := fun i (hi : i < stimuli.length) => copy_getElem? packet.stimuli stimuli hi
  rw [hsnd]
  simp only at hlen hget ⊢
  generalize (if packet.stimuli.length < stimuli.length then _ else _) = copied at hlen hget ⊢
  apply List.ext_getElem?
  intro i
  by_cases hi : i < stimuli.length
  · have hi' : i < copied.length := by omega
    rw [List.getElem?_map, List.getElem?_range hi, Option.map_some]
    unfold slot
    cases packet.validMask with
    | none => exact hget i hi
    | some mask =>
      simp only [Option.any_some, Option.elim_some]
      rw [take_zipIdx, maskLoop_getElem? _ 0 _ hi', Nat.sub_zero, List.getElem?_take_of_lt hi,
        hget i hi]
      by_cases hm : mask[i]? = some false <;> simp [hm]
  · have hnone : ((List.range stimuli.length).map (slot packet))[i]? = none :=
      List.getElem?_eq_none (by simp; omega)
    rw [hnone]
    apply List.getElem?_eq_none
    cases packet.validMask with
    | none =>
      show copied.length ≤ i
      omega
    | some mask =>
      rw [Option.elim_some, maskLoop_length]
      omega

theorem slot_finite {packet : IngressPacket} (h : firstNonFinite packet = none) (i : ℕ) :
    (slot packet i).isFinite = true := by
  have hall := ((firstNonFinite_eq_none packet).1 h).1
  unfold slot
  split
  · exact F32.isFinite_zero
  · rw [List.getD_eq_getElem?_getD]
    cases hs : packet.stimuli[i]? with
    | none => exact F32.isFinite_zero
    | some v => exact hall v (List.mem_of_getElem? hs)

theorem decodeInputs_modulators_finite (hl : nm.Lawful) {packet : IngressPacket}
    (h : firstNonFinite packet = none) (stimuli : List F32) :
    (decodeInputs nm packet stimuli).1.isFinite = true := by
  have hall := ((firstNonFinite_eq_none packet).1 h).2
  unfold decodeInputs
  simp only
  split
  · next a b c e rest hm =>
    have hmem := hall _ hm
    simp only [NeuroModulators.isFinite, Bool.and_eq_true]
    exact ⟨⟨⟨hmem a (by simp), hmem b (by simp)⟩, hmem c (by simp)⟩, hmem e (by simp)⟩
  · exact hl.default_finite

/-! ## Runs -/

/-- The buffer is as wide as the network. -/
def Fed (nm : Neuromod Network Entropy) (d : TickLoop Network) : Prop :=
  d.stimuli.length = nm.numChannels d.network

/-- What a call of the step must be given. -/
structure Sound (n : ℕ) (packet : IngressPacket) (call : StepCall) : Prop where
  length : call.stimuli.length = n
  slots : call.stimuli = (List.range n).map (slot packet)
  stimuli_finite : ∀ v ∈ call.stimuli, v.isFinite = true
  modulators_finite : call.modulators.isFinite = true

/-- Nothing is left for the step to fail on. -/
theorem Sound.succeeds {network : Network} {entropy : Entropy} {packet : IngressPacket}
    {call : StepCall} (h : Sound (nm.numChannels network) packet call) (hnm : nm.ErrsOnInput)
    (hresult : call.result = (nm.step network entropy call.stimuli call.modulators).1) (e : String) :
    call.result ≠ .error e := by
  intro he
  rcases hnm _ _ _ _ e (hresult.symm.trans he) with hw | ⟨v, hv, hnf⟩ | hnf
  · exact hw h.length
  · rw [h.stimuli_finite v hv] at hnf
    cases hnf
  · rw [h.modulators_finite] at hnf
    cases hnf

variable {d d' : TickLoop Network} (input : TickInput Entropy) (packet : IngressPacket)
  (stats : RuntimeStats) (diagnostics : TickDiagnostics)

/-- The second half of a tick keeps the width, and any call it makes is sound. -/
theorem advance_sound (hl : nm.Lawful) (hfed : Fed nm d) :
    let a := advance nm d input packet stats diagnostics
    a.stimuli.length = nm.numChannels a.network ∧
      ∀ call, a.stepped = some call → Sound (nm.numChannels d.network) packet call ∧
        (nm.ErrsOnInput → ∀ e, call.result ≠ .error e) := by
  intro a
  by_cases h : firstNonFinite packet = none
  · obtain ⟨hstep, hnet, hstim⟩ := advance_stepped nm d input packet stats diagnostics h
    have hslots : (decodeInputs nm packet d.stimuli).2 = _ := decodeInputs_stimuli packet d.stimuli
    have hlen : (decodeInputs nm packet d.stimuli).2.length = nm.numChannels d.network := by
      rw [hslots, List.length_map, List.length_range]
      exact hfed
    have hfin : ∀ v ∈ (decodeInputs nm packet d.stimuli).2, v.isFinite = true := by
      rw [hslots]
      intro v hv
      obtain ⟨i, -, rfl⟩ := List.mem_map.1 hv
      exact slot_finite h i
    have hmods := decodeInputs_modulators_finite hl h d.stimuli
    refine ⟨?_, ?_⟩
    · show a.stimuli.length = nm.numChannels a.network
      rw [hstim, hnet, (hl.step_dimensions _ _ _ _).2.2, hlen]
    · intro call hcall
      rw [hstep, Option.some.injEq] at hcall
      subst hcall
      have hsound : Sound (nm.numChannels d.network) packet
          ⟨(decodeInputs nm packet d.stimuli).2, (decodeInputs nm packet d.stimuli).1,
            (nm.step d.network input.entropy (decodeInputs nm packet d.stimuli).2
              (decodeInputs nm packet d.stimuli).1).1⟩ :=
        ⟨hlen, by rw [hslots, hfed], hfin, hmods⟩
      exact ⟨hsound, fun hnm => hsound.succeeds hnm rfl⟩
  · obtain ⟨o, ho⟩ := Option.ne_none_iff_exists'.1 h
    have ha : a = _ := advance_eq_refused nm d input packet stats diagnostics ho
    rw [ha]
    -- a refused packet touches neither the network nor the buffer
    refine ⟨hfed, ?_⟩
    intro call hcall
    cases hcall

theorem Fed.step (hl : nm.Lawful) (hfed : Fed nm d) {l : Label Entropy}
    (h : Steps nm fl d l d') : Fed nm d' := by
  cases h with
  | other st => exact hfed
  | ticked input => exact (advance_sound input _ _ _ hl hfed).1

/-- **Every call of the step, in every run, is given finite values of the right width, taken
slot by slot from the packet drained in that tick**, and so it never fails if the crate errs on its
input alone. -/
theorem step_preconditions (hl : nm.Lawful) {net : NetParsers} {cfg : DaemonConfig}
    {d₀ : TickLoop Network} (h0 : Enters nm net fl cfg d₀)
    {trace : List (Label Entropy × TickLoop Network)} (hr : Run (TickLoop.step nm fl) d₀ trace d) :
    Run.Each (fun d l _ => ∀ input t call, l = .ticked input t → t.stepped = some call →
      Sound (nm.numChannels d.network) t.drained.intoPacket call ∧
        (nm.ErrsOnInput → ∀ e, call.result ≠ .error e)) d₀ trace := by
  have hfed₀ : Fed nm d₀ := h0.channels.1.trans h0.channels.2.symm
  refine (Run.each (I := Fed nm) hfed₀ ?_ ?_ hr).2
  · intro d a l d' hfed hs
    exact hfed.step hl (steps_of_step hs)
  · intro d a l d' hfed hs input t call hl' hcall
    cases steps_of_step hs with
    | other st => cases hl'
    | ticked _ =>
      cases hl'
      exact (advance_sound input _ _ _ hl hfed).2 call hcall

/-- Another thread has enqueued a short packet behind the gate of the backend. -/
def shortQueued : TickLoop (ℕ × ℕ × ℕ) :=
  { TickLoop.quiet id with
    ingress := (TickLoop.quiet id).ingress.perform
      (.push .sensory { IngressPacket.default with stimuli := [.one] } none 0) }

/-- The tick that drains it. -/
def shortTick : TickTrace × TickLoop (ℕ × ℕ × ℕ) := runTickPublished .quiet id shortQueued .failing

theorem step_preconditions_short_packet : ∃ call, shortTick.1.stepped = some call ∧
    Sound 2 shortTick.1.drained.intoPacket call ∧ (∀ e, call.result ≠ .error e) ∧
      call.stimuli = [.one, 0] := by
  have hr : Run (TickLoop.step .quiet id) (TickLoop.quiet id)
      [(.other _, shortQueued), (.ticked .failing shortTick.1, shortTick.2)] shortTick.2 :=
    .snoc (.tick .failing) (.snoc (.other _) .refl rfl) rfl
  obtain ⟨-, h, -⟩ := step_preconditions Neuromod.quiet_lawful (TickLoop.enters_quiet id) hr
  have hstim : shortTick.1.stepped.map StepCall.stimuli = some [.one, 0] := by decide +kernel
  obtain ⟨call, hcall, hslots⟩ := Option.map_eq_some_iff.1 hstim
  obtain ⟨hsound, hsucceeds⟩ := h .failing shortTick.1 call rfl hcall
  exact ⟨call, hcall, hsound, hsucceeds Neuromod.quiet_errsOnInput, hslots⟩

end Brainstem.Daemon
