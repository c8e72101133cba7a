import Mathlib.Data.List.Basic

/-!
# Messages in flight on several channels

Messages of several channels are in transit together.  A channel delivers its messages in
the order in which they were put in; which channel delivers next is left open, so the
messages of different channels overtake one another freely.

## Main definitions

* `onChannel key k ms` — the messages of channel `k`, in order.
* `receive key k ms` — the first of them, and what is in transit after it.
* `cut lengths xs` — a message handed over in pieces.
* `onChannel_receive`, `onChannel_receive_of_ne`, `perm_of_receive` — what a delivery changes.
* `onChannel_of_nodup`, `filterMap_onChannel` — one message on each channel; what is made of
  one channel.
* `last_of_append_eq` — where a closing message stands.
-/

namespace Protogate.Lib

universe u v
variable {μ : Type u} {κ : Type v} [DecidableEq κ] (key : μ → κ)

/-! ## Channels -/

/-- The messages of one channel. -/
def onChannel (k : κ) (ms : List μ) : List μ := ms.filter fun m => key m = k

/-- The next message of a channel, and the messages that stay in transit. -/
def receive (k : κ) (ms : List μ) : Option (μ × List μ) :=
  (ms.find? fun m => key m = k).map fun m => (m, ms.eraseP fun m => key m = k)

@[simp] theorem onChannel_nil (k : κ) : onChannel key k [] = [] := rfl

@[simp] theorem onChannel_append (k : κ) (ms ns : List μ) :
    onChannel key k (ms ++ ns) = onChannel key k ms ++ onChannel key k ns := by
  simp [onChannel]

theorem onChannel_cons (k : κ) (m : μ) (ms : List μ) :
    onChannel key k (m :: ms) = if key m = k then m :: onChannel key k ms else onChannel key k ms := by
  by_cases h : key m = k <;> simp [onChannel, h]

variable {key}

/-- Messages of one channel are all on it, and none of them on another. -/
theorem onChannel_of_forall {k : κ} {ms : List μ} (h : ∀ m ∈ ms, key m = k) (k' : κ) :
    onChannel key k' ms = if k' = k then ms else [] := by
  split
  · simpa [onChannel, *] using h
  · rename_i hne
    simp only [onChannel, List.filter_eq_nil_iff, decide_eq_true_eq]
    exact fun m hm heq => hne (heq ▸ h m hm)

theorem onChannel_eq_nil_iff {k : κ} {ms : List μ} : onChannel key k ms = [] ↔ ∀ m ∈ ms, key m ≠ k := by
  simp [onChannel, List.filter_eq_nil_iff]

/-- Where no two messages are on one channel, each is alone on its own. -/
theorem onChannel_of_nodup {ms : List μ} (h : (ms.map key).Nodup) {m : μ} (hm : m ∈ ms) :
    onChannel key (key m) ms = [m] := by
  induction ms with
  | nil => cases hm
  | cons a ms ih =>
      rw [List.map_cons, List.nodup_cons] at h
      rw [onChannel_cons]
      by_cases ha : key a = key m
      · have hnot : m ∉ ms := fun hmem => h.1 (ha ▸ List.mem_map_of_mem hmem)
        have hnil : onChannel key (key m) ms = [] :=
          onChannel_eq_nil_iff.mpr fun n hn heq => h.1 (ha ▸ heq ▸ List.mem_map_of_mem hn)
        obtain rfl : m = a := by simpa [hnot] using hm
        simp [hnil]
      · have hmem : m ∈ ms := by
          cases hm with
          | head => exact absurd rfl ha
          | tail _ hmem => exact hmem
        simp [ha, ih h.2 hmem]

/-- What is made of the messages of one channel only. -/
theorem filterMap_onChannel {β : Type*} {f : μ → Option β} {k : κ} (h : ∀ m, key m ≠ k → f m = none)
    (ms : List μ) : (onChannel key k ms).filterMap f = ms.filterMap f := by
  rw [onChannel, List.filterMap_filter]
  apply List.filterMap_congr
  intro m _
  by_cases hm : key m = k
  · simp [hm]
  · simp [hm, h m hm]

/-- A channel delivers its first message. -/
theorem onChannel_receive {k : κ} {ms rest : List μ} {m : μ} (h : receive key k ms = some (m, rest)) :
    key m = k ∧ onChannel key k ms = m :: onChannel key k rest := by
  induction ms generalizing rest with
  | nil => simp [receive] at h
  | cons a ms ih =>
      by_cases ha : key a = k
      · simp only [receive, List.find?_cons, ha, List.eraseP_cons, decide_true,
          Option.map_some, Option.some.injEq, Prod.mk.injEq] at h
        obtain ⟨rfl, rfl⟩ := h
        exact ⟨ha, by simp [onChannel_cons, ha]⟩
      · simp only [receive, List.find?_cons, ha, List.eraseP_cons, decide_false, cond_false,
          Option.map_eq_some_iff, Prod.mk.injEq] at h
        obtain ⟨b, hb, rfl, rfl⟩ := h
        have hms : receive key k ms = some (b, ms.eraseP fun m => key m = k) := by simp [receive, hb]
        simpa [onChannel_cons, ha] using ih hms

/-- The other channels keep theirs. -/
theorem onChannel_receive_of_ne {k k' : κ} {ms rest : List μ} {m : μ}
    (h : receive key k ms = some (m, rest)) (hne : k' ≠ k) :
    onChannel key k' rest = onChannel key k' ms := by
  induction ms generalizing rest with
  | nil => simp [receive] at h
  | cons a ms ih =>
      by_cases ha : key a = k
      · simp only [receive, List.find?_cons, ha, List.eraseP_cons, decide_true,
          Option.map_some, Option.some.injEq, Prod.mk.injEq] at h
        obtain ⟨rfl, rfl⟩ := h
        simp [onChannel_cons, ha, Ne.symm hne]
      · simp only [receive, List.find?_cons, ha, List.eraseP_cons, decide_false, cond_false,
          Option.map_eq_some_iff, Prod.mk.injEq] at h
        obtain ⟨b, hb, rfl, rfl⟩ := h
        have hms : receive key k ms = some (b, ms.eraseP fun m => key m = k) := by simp [receive, hb]
        simp [onChannel_cons, ih hms]

/-- The first message of a channel is taken from among the others. -/
theorem perm_of_receive {k : κ} {ms rest : List μ} {m : μ} (h : receive key k ms = some (m, rest)) :
    ms.Perm (m :: rest) := by
  induction ms generalizing rest with
  | nil => simp [receive] at h
  | cons a ms ih =>
      by_cases ha : key a = k
      · simp only [receive, List.find?_cons, ha, List.eraseP_cons, decide_true,
          Option.map_some, Option.some.injEq, Prod.mk.injEq] at h
        obtain ⟨rfl, rfl⟩ := h
        exact List.Perm.refl _
      · simp only [receive, List.find?_cons, ha, List.eraseP_cons, decide_false, cond_false,
          Option.map_eq_some_iff, Prod.mk.injEq] at h
        obtain ⟨b, hb, rfl, rfl⟩ := h
        have hms : receive key k ms = some (b, ms.eraseP fun m => key m = k) := by simp [receive, hb]
        exact ((ih hms).cons a).trans (List.Perm.swap _ _ _)

/-- The others stay in order. -/
theorem sublist_of_receive {k : κ} {ms rest : List μ} {m : μ} (h : receive key k ms = some (m, rest)) :
    rest.Sublist ms := by
  simp only [receive, Option.map_eq_some_iff, Prod.mk.injEq] at h
  obtain ⟨_, _, rfl, rfl⟩ := h
  exact List.eraseP_sublist

/-! ## Pieces -/

/-- A list cut after the given lengths. -/
def cut {α : Type*} : List ℕ → List α → List (List α)
  | [], xs => [xs]
  | n :: lengths, xs => xs.take n :: cut lengths (xs.drop n)

theorem flatten_cut {α : Type*} (lengths : List ℕ) (xs : List α) : (cut lengths xs).flatten = xs := by
  induction lengths generalizing xs with
  | nil => simp [cut]
  | cons n lengths ih => simp [cut, ih]

/-- Empty pieces do not count. -/
theorem flatten_filter_cut {α : Type*} [DecidableEq α] (lengths : List ℕ) (xs : List α) :
    ((cut lengths xs).filter fun piece => piece ≠ []).flatten = xs := by
  rw [List.flatten_filter_ne_nil, flatten_cut]

/-! ## The end of a message -/

/-- What closes a sequence and occurs nowhere before ends it. -/
theorem last_of_append_eq {α : Type*} {xs ys zs : List α} {y : α} (h : xs ++ y :: ys = zs ++ [y])
    (hy : y ∉ zs) : xs = zs ∧ ys = [] := by
  induction zs generalizing xs with
  | nil =>
      cases xs with
      | nil => simpa using h
      | cons x xs => simp at h
  | cons z zs ih =>
      cases xs with
      | nil =>
          simp only [List.nil_append, List.cons_append, List.cons.injEq] at h
          simp [h.1] at hy
      | cons x xs =>
          simp only [List.cons_append, List.cons.injEq] at h
          obtain ⟨hxs, hys⟩ := ih h.2 (by simp at hy; exact hy.2)
          exact ⟨by rw [h.1, hxs], hys⟩

end Protogate.Lib
