import Mathlib.Data.List.Basic

/-!
# Data providers

A library that frames a body asks a callback for it piece by piece.  It offers the
length of a buffer, the callback answers with bytes and says whether they are the
last ones, and nothing more is asked after that.

## Main definitions

* `Chunk` — one answer of the callback, with what it reads from next time.
* `transfer` — the bytes sent over a list of offers.
* `Intact` — the bytes sent up to the end are the body.
* `intact_iff_of_eof` — a callback that always says that it is done.
-/

namespace Protogate.Lib

universe u v
variable {σ : Type u} {α : Type v}

/-- The bytes written to the buffer, whether they are the last, and the new source. -/
structure Chunk (σ : Type u) (α : Type v) where
  data : List α
  eof : Bool
  source : σ
  deriving DecidableEq, Repr

variable (read : σ → ℕ → Chunk σ α)

/-- The bytes sent over the offers, or `none` if the end has not been reached. -/
def transfer : σ → List ℕ → Option (List α)
  | _, [] => none
  | source, n :: lengths =>
      let chunk := read source n
      if chunk.eof then some chunk.data
      else (transfer chunk.source lengths).map (chunk.data ++ ·)

/-- After some of the offers the end is reached, and the bytes sent are `body`. -/
def Intact (source : σ) (lengths : ℕ → ℕ) (body : List α) : Prop :=
  ∃ n, transfer read source ((List.range n).map lengths) = some body

variable {read}

theorem transfer_of_eof {source : σ} {n : ℕ} (h : (read source n).eof = true)
    (lengths : List ℕ) : transfer read source (n :: lengths) = some (read source n).data := by
  simp only [transfer, h, if_true]

/-- If every answer is the last one, the first answer has to be the whole body. -/
theorem intact_iff_of_eof (h : ∀ source n, (read source n).eof = true) (source : σ)
    (lengths : ℕ → ℕ) (body : List α) :
    Intact read source lengths body ↔ (read source (lengths 0)).data = body := by
  constructor
  · rintro ⟨n, hn⟩
    cases n with
    | zero => simp [transfer] at hn
    | succ n =>
        rw [List.range_succ_eq_map, List.map_cons, transfer_of_eof (h source _)] at hn
        exact Option.some.inj hn
  · intro hdata
    refine ⟨1, ?_⟩
    show transfer read source [lengths 0] = some body
    rw [transfer_of_eof (h source _), hdata]

end Protogate.Lib
