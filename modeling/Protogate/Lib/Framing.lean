import Protogate.Lib.Bytes
import Mathlib.Tactic.Common

/-!
# Splitting a buffer into frames

A splitter knows, from the bytes at the front of a buffer, how long the frame
there is.  It takes whole frames off the front until the size is unknown (0) or
exceeds what is left.

## Main definitions

* `takeFrame size data` — the first frame and the rest.
* `splitFrames size fuel data` — all whole frames at the front, and the rest.
* `Whole size f` — `f` is taken as one frame, whatever follows it.
* `splitFrames_flatten`, `takeFrame_splitFrames` — nothing is lost, and the
  splitter stops only where no whole frame is left.
* `splitFrames_append` — whole frames are split as they were put together.
-/

namespace Protogate.Lib

variable (size : Bytes → ℕ)

/-- The first frame of a buffer and what follows it. -/
def takeFrame (data : Bytes) : Option (Bytes × Bytes) :=
  if size data = 0 ∨ data.length < size data then none
  else some (data.take (size data), data.drop (size data))

/-- The whole frames at the front and the rest; one unit of fuel for each frame. -/
def splitFrames : ℕ → Bytes → List Bytes × Bytes
  | 0, data => ([], data)
  | fuel + 1, data =>
      match takeFrame size data with
      | none => ([], data)
      | some (frame, rest) =>
          let split := splitFrames fuel rest
          (frame :: split.1, split.2)

/-- `f` is taken off the front of every buffer that starts with it. -/
def Whole (f : Bytes) : Prop := ∀ rest, takeFrame size (f ++ rest) = some (f, rest)

variable {size}

theorem takeFrame_eq_some {data frame rest : Bytes} (h : takeFrame size data = some (frame, rest)) :
    frame ≠ [] ∧ frame ++ rest = data := by
  simp only [takeFrame] at h
  split at h
  · cases h
  · rename_i hsize
    obtain ⟨hpos, hle⟩ := not_or.mp hsize
    obtain ⟨rfl, rfl⟩ := Prod.mk.inj (Option.some.inj h)
    refine ⟨?_, List.take_append_drop _ data⟩
    intro hnil
    have hlen := congrArg List.length hnil
    rw [List.length_take, List.length_nil] at hlen
    omega

@[simp] theorem takeFrame_nil : takeFrame size [] = none := by
  have hno : size [] = 0 ∨ ([] : Bytes).length < size [] := by
    rw [List.length_nil]
    omega
  rw [takeFrame, if_pos hno]

/-- A frame whose size is known from its own bytes, with anything behind it, is whole. -/
theorem whole_of_size {f : Bytes} (hne : f ≠ []) (h : ∀ rest, size (f ++ rest) = f.length) :
    Whole size f := by
  intro rest
  have hpos : f.length ≠ 0 := by simpa using hne
  have hno : ¬ (size (f ++ rest) = 0 ∨ (f ++ rest).length < size (f ++ rest)) := by
    rw [h rest, List.length_append]
    omega
  rw [takeFrame, if_neg hno, h rest, List.take_left, List.drop_left]

/-- Splitting loses and invents no byte. -/
theorem splitFrames_flatten (fuel : ℕ) (data : Bytes) :
    (splitFrames size fuel data).1.flatten ++ (splitFrames size fuel data).2 = data := by
  induction fuel generalizing data with
  | zero => rfl
  | succ fuel ih =>
      simp only [splitFrames]
      split
      · rfl
      · rename_i frame rest htake
        have hdata := (takeFrame_eq_some htake).2
        simp only [List.flatten_cons, List.append_assoc, ih rest, hdata]

/-- With fuel for every byte the splitter stops only where no whole frame is left. -/
theorem takeFrame_splitFrames {fuel : ℕ} {data : Bytes} (hfuel : data.length ≤ fuel) :
    takeFrame size (splitFrames size fuel data).2 = none := by
  induction fuel generalizing data with
  | zero =>
      rw [List.eq_nil_of_length_eq_zero (Nat.le_zero.mp hfuel)]
      exact takeFrame_nil
  | succ fuel ih =>
      simp only [splitFrames]
      split
      · assumption
      · rename_i frame rest htake
        obtain ⟨hne, hdata⟩ := takeFrame_eq_some htake
        have hpos : 0 < frame.length := List.length_pos_iff.mpr hne
        have hlen : rest.length ≤ fuel := by
          rw [← hdata, List.length_append] at hfuel
          omega
        exact ih hlen

/-- What holds of every frame that can be taken holds of the frames of a split. -/
theorem forall_mem_splitFrames {P : Bytes → Prop}
    (h : ∀ data frame rest, takeFrame size data = some (frame, rest) → P frame) (fuel : ℕ)
    (data : Bytes) : ∀ f ∈ (splitFrames size fuel data).1, P f := by
  induction fuel generalizing data with
  | zero => simp [splitFrames]
  | succ fuel ih =>
      simp only [splitFrames]
      split
      · simp
      · rename_i frame rest htake
        exact List.forall_mem_cons.mpr ⟨h data frame rest htake, ih rest⟩

theorem Whole.length_pos {f : Bytes} (h : Whole size f) : 0 < f.length :=
  List.length_pos_iff.mpr (takeFrame_eq_some (h [])).1

/-- Whole frames followed by a rest that starts with none are split again. -/
theorem splitFrames_append {frames : List Bytes} {rest : Bytes} {fuel : ℕ}
    (hwhole : ∀ f ∈ frames, Whole size f) (hrest : takeFrame size rest = none)
    (hfuel : (frames.flatten ++ rest).length ≤ fuel) :
    splitFrames size fuel (frames.flatten ++ rest) = (frames, rest) := by
  induction frames generalizing fuel with
  | nil =>
      cases fuel with
      | zero => rfl
      | succ fuel => simp [splitFrames, hrest]
  | cons f frames ih =>
      have hf := hwhole f List.mem_cons_self
      have hpos := hf.length_pos
      rw [List.flatten_cons, List.append_assoc, List.length_append] at hfuel
      cases fuel with
      | zero => omega
      | succ fuel =>
          have hlen : (frames.flatten ++ rest).length ≤ fuel := by omega
          have hrec := ih (fun g hg => hwhole g (List.mem_cons_of_mem f hg)) hlen
          rw [List.flatten_cons, List.append_assoc, splitFrames, hf]
          simp only [hrec]

end Protogate.Lib
