import Protogate.Lib.Text
import Mathlib.Data.List.Infix

/-!
# Blocks of header lines

Text protocols send lines that end in CR LF and close the block with an empty line.
A program reads such a block line by line from a stream, where the carriage return
stays at the end of the line, or waits until its buffer contains two line ends in a
row.

## Main definitions

* `headerBlock` — the lines of the block and what follows.
* `popCr`, `splitColon` — a line without its carriage return, and cut at its colon.
* `terminated` — a buffer that contains the end of a block.
* `headerBlock_append`, `terminated_iff_of_block` — both ways find the same end.
-/

namespace Protogate.Lib

/-! ## Reading a block -/

/-- `while (getline(stream, line) && !line.empty() && line != "\r")`: the lines that the
body of the loop sees, and the rest of the stream; `n` bounds their number. -/
def headerBlock : ℕ → Str → List Str × Str
  | 0, stream => ([], stream)
  | n + 1, stream =>
      match getline stream with
      | none => ([], [])
      | some (line, stream) =>
          if line = [] ∨ line = ['\r'] then ([], stream)
          else
            let (lines, stream) := headerBlock n stream
            (line :: lines, stream)

/-- A line without the carriage return at its end. -/
def popCr (line : Str) : Str := if line.getLast? = some '\r' then line.dropLast else line

/-- A line cut at its first colon. -/
def splitColon (line : Str) : Option (Str × Str) :=
  if ':' ∈ line then some (line.takeWhile (· ≠ ':'), (line.dropWhile (· ≠ ':')).drop 1) else none

theorem getline_append {line : Str} (h : '\n' ∉ line) (rest : Str) :
    getline (line ++ '\n' :: rest) = some (line, rest) := by
  have htake := takeWhile_ne_append h rest
  have hdrop := dropWhile_ne_append h rest
  cases hline : line ++ '\n' :: rest with
  | nil => simp at hline
  | cons c s =>
      rw [hline] at htake hdrop
      simp only [getline, htake, hdrop, List.drop_succ_cons, List.drop_zero]

/-- A block is read up to its empty line. -/
theorem headerBlock_append {lines : List Str} (h : ∀ l ∈ lines, '\n' ∉ l ∧ l ≠ [] ∧ l ≠ ['\r'])
    {n : ℕ} (hn : lines.length < n) (rest : Str) :
    headerBlock n (lines.flatMap (· ++ ['\n']) ++ '\r' :: '\n' :: rest) = (lines, rest) := by
  induction lines generalizing n with
  | nil =>
      cases n with
      | zero => omega
      | succ n =>
          have hline : getline ('\r' :: '\n' :: rest) = some (['\r'], rest) :=
            getline_append (by decide : '\n' ∉ ['\r']) rest
          simp [headerBlock, hline]
  | cons l lines ih =>
      cases n with
      | zero => omega
      | succ n =>
          obtain ⟨hnewline, hnil, hcr⟩ := h l List.mem_cons_self
          have hrest := ih (fun l hl => h l (List.mem_cons_of_mem _ hl)) (n := n)
            (by simpa using hn)
          have hline : getline (l ++ '\n' ::
              (lines.flatMap (· ++ ['\n']) ++ '\r' :: '\n' :: rest)) =
                some (l, lines.flatMap (· ++ ['\n']) ++ '\r' :: '\n' :: rest) :=
            getline_append hnewline _
          have htext : (l :: lines).flatMap (· ++ ['\n']) ++ '\r' :: '\n' :: rest =
              l ++ '\n' :: (lines.flatMap (· ++ ['\n']) ++ '\r' :: '\n' :: rest) := by
            simp
          rw [htext, headerBlock, hline]
          simp only [hnil, hcr, or_self, if_false, hrest]

@[simp] theorem popCr_concat (line : Str) : popCr (line ++ ['\r']) = line := by
  simp [popCr]

theorem splitColon_append {name : Str} (h : ':' ∉ name) (value : Str) :
    splitColon (name ++ ':' :: value) = some (name, value) := by
  have hmem : ':' ∈ name ++ ':' :: value := by simp
  rw [splitColon, if_pos hmem, takeWhile_ne_append h, dropWhile_ne_append h, List.drop_one,
    List.tail_cons]

theorem newline_not_mem_getline {s line rest : Str} (h : getline s = some (line, rest)) :
    '\n' ∉ line := by
  cases s with
  | nil => cases h
  | cons c s =>
      obtain ⟨rfl, rfl⟩ := Prod.mk.inj (Option.some.inj h)
      intro hmem
      simpa using List.mem_takeWhile_imp hmem

/-- The lines that are read contain no line end. -/
theorem newline_not_mem_headerBlock (n : ℕ) (stream : Str) :
    ∀ l ∈ (headerBlock n stream).1, '\n' ∉ l := by
  induction n generalizing stream with
  | zero => simp [headerBlock]
  | succ n ih =>
      simp only [headerBlock]
      split
      · simp
      · rename_i line rest hline
        split
        · simp
        · simp only [List.forall_mem_cons]
          exact ⟨newline_not_mem_getline hline, ih rest⟩

theorem mem_of_mem_popCr {c : Char} {line : Str} (h : c ∈ popCr line) : c ∈ line := by
  unfold popCr at h
  split at h
  · exact List.mem_of_mem_dropLast h
  · exact h

/-- A line that has been cut. -/
theorem splitColon_eq_some {line name value : Str} (h : splitColon line = some (name, value)) :
    ':' ∉ name ∧ line = name ++ ':' :: value := by
  unfold splitColon at h
  split at h
  · rename_i hmem
    obtain ⟨rfl, rfl⟩ := Prod.mk.inj (Option.some.inj h)
    exact eq_append_of_mem hmem
  · cases h

/-! ## Words and values -/

/-- A word is extracted up to the white space behind it. -/
theorem extractWord_append {word : Str} (hword : ∀ c ∈ word, isSpace c = false) (hne : word ≠ [])
    {c : Char} (hc : isSpace c = true) (rest : Str) :
    extractWord (word ++ c :: rest) = (word, c :: rest) := by
  have hall : ∀ c ∈ word, (! isSpace c) = true := by
    intro c hc
    rw [hword c hc]
    rfl
  have hskip : (word ++ c :: rest).dropWhile isSpace = word ++ c :: rest := by
    cases word with
    | nil => exact absurd rfl hne
    | cons d word =>
        have hd := hword d List.mem_cons_self
        simp [hd]
  simp only [extractWord, hskip, List.takeWhile_append_of_pos hall,
    List.dropWhile_append_of_pos hall]
  simp [hc]

/-- White space in front of a word is skipped. -/
theorem extractWord_cons {c : Char} (hc : isSpace c = true) (s : Str) :
    extractWord (c :: s) = extractWord s := by
  simp only [extractWord, List.dropWhile_cons, hc, if_true]

/-- A word at the end of its stream. -/
theorem extractWord_self {word : Str} (hword : ∀ c ∈ word, isSpace c = false) :
    extractWord word = (word, []) := by
  have hskip : word.dropWhile isSpace = word := by
    cases word with
    | nil => rfl
    | cons d word =>
        have hd := hword d List.mem_cons_self
        simp [hd]
  have hall : ∀ c ∈ word, (! isSpace c) = true := by
    intro c hc
    rw [hword c hc]
    rfl
  simp only [extractWord, hskip]
  rw [List.takeWhile_eq_self_iff.mpr hall, List.dropWhile_eq_nil_iff.mpr hall]

@[simp] theorem extractWord_nil : extractWord [] = ([], []) := rfl

/-- What is extracted is a word. -/
theorem isSpace_of_mem_extractWord (s : Str) : ∀ c ∈ (extractWord s).1, isSpace c = false := by
  intro c hc
  simpa using List.mem_takeWhile_imp hc

/-- Where no word is found nothing is left. -/
theorem extractWord_snd_of_nil {s : Str} (h : (extractWord s).1 = []) : (extractWord s).2 = [] := by
  simp only [extractWord] at h ⊢
  cases hrest : s.dropWhile isSpace with
  | nil => rfl
  | cons c rest =>
      have hc : isSpace c = false := by
        have hne : s.dropWhile isSpace ≠ [] := by simp [hrest]
        have hhead := List.head_dropWhile_not isSpace hne
        simpa only [hrest, List.head_cons] using hhead
      simp [hrest, hc] at h

/-- Then there is no further word either. -/
theorem extractWord_of_nil {s : Str} (h : (extractWord s).1 = []) :
    (extractWord (extractWord s).2).1 = [] := by
  rw [extractWord_snd_of_nil h, extractWord_nil]

/-- Trimming takes a character off the front that is to be trimmed. -/
theorem trim_cons {ws : Char → Bool} {c : Char} (hc : ws c = true) (s : Str) :
    trim ws (c :: s) = trim ws s := by
  simp only [trim, List.dropWhile_cons, hc, if_true]

/-- What has been trimmed stays as it is. -/
theorem trim_trim (ws : Char → Bool) (s : Str) : trim ws (trim ws s) = trim ws s := by
  have hfront : (trim ws s).dropWhile ws = trim ws s := by
    cases htrim : trim ws s with
    | nil => rfl
    | cons c rest =>
        have hprefix : (c :: rest) <+: s.dropWhile ws := htrim ▸ List.rdropWhile_prefix ws _
        have hc : ws c = false := by
          have hne : s.dropWhile ws ≠ [] := fun h => by simp [h] at hprefix
          have hhead := List.head_dropWhile_not ws hne
          obtain ⟨tail, htail⟩ := hprefix
          simpa only [← htail, List.cons_append, List.head_cons] using hhead
        simp [hc]
  conv_lhs => rw [trim, hfront, trim, List.rdropWhile_idempotent]
  rfl

/-- Trimming takes a character off the end that is to be trimmed. -/
theorem trim_concat {ws : Char → Bool} {c : Char} (hc : ws c = true) (s : Str) :
    trim ws (s ++ [c]) = trim ws s := by
  have hlast : ∀ t : Str, (t ++ [c]).rdropWhile ws = t.rdropWhile ws := fun t => by
    rw [List.rdropWhile_concat_pos _ _ _ hc]
  by_cases hall : ∀ d ∈ s, ws d = true
  · have hnil : s.dropWhile ws = [] := List.dropWhile_eq_nil_iff.mpr hall
    have hnil' : (s ++ [c]).dropWhile ws = [] := by
      refine List.dropWhile_eq_nil_iff.mpr fun d hd => ?_
      rcases List.mem_append.mp hd with hd | hd
      · exact hall d hd
      · rw [List.mem_singleton.mp hd, hc]
    rw [trim, trim, hnil, hnil']
  · have hne : s.dropWhile ws ≠ [] := by
      rw [Ne, List.dropWhile_eq_nil_iff]
      exact hall
    have happend : (s ++ [c]).dropWhile ws = s.dropWhile ws ++ [c] := by
      rw [List.dropWhile_append, if_neg]
      simpa using hne
    rw [trim, trim, happend, hlast]

theorem dropWhile_congr {p q : Char → Bool} {s : Str} (h : ∀ c ∈ s, p c = q c) :
    s.dropWhile p = s.dropWhile q := by
  induction s with
  | nil => rfl
  | cons c s ih =>
      have hc := h c List.mem_cons_self
      have hs := ih fun d hd => h d (List.mem_cons_of_mem _ hd)
      rw [List.dropWhile_cons, List.dropWhile_cons, hc, hs]

/-- Only the characters of the string matter to trimming. -/
theorem trim_congr {p q : Char → Bool} {s : Str} (h : ∀ c ∈ s, p c = q c) :
    trim p s = trim q s := by
  have hback : ∀ c ∈ (s.dropWhile q).reverse, p c = q c := by
    intro c hc
    exact h c ((List.dropWhile_suffix q).subset (List.mem_reverse.mp hc))
  rw [trim, trim, dropWhile_congr h, List.rdropWhile, List.rdropWhile, dropWhile_congr hback]

/-! ## Waiting for the end of a block -/

def crlf : Str := "\r\n".toList

/-- `buffer.find("\r\n\r\n") != npos`. -/
def terminated (buffer : Str) : Bool := decide ((crlf ++ crlf) <:+: buffer)

theorem terminated_iff {buffer : Str} : terminated buffer = true ↔ (crlf ++ crlf) <:+: buffer := by
  simp [terminated]

/-- The text of a block. -/
def blockText (lines : List Str) : Str := lines.flatMap (· ++ crlf) ++ crlf

/-- A line in a block: not empty, and without line ends. -/
def IsLine (l : Str) : Prop := l ≠ [] ∧ '\r' ∉ l ∧ '\n' ∉ l

@[simp] theorem blockText_nil : blockText [] = crlf := rfl

theorem blockText_cons (l : Str) (lines : List Str) (rest : Str) :
    blockText (l :: lines) ++ rest = l ++ '\r' :: '\n' :: (blockText lines ++ rest) := by
  simp [blockText, crlf]

theorem length_lt_blockText (lines : List Str) (rest : Str) :
    lines.length < (blockText lines ++ rest).length := by
  induction lines with
  | nil => simp [crlf]
  | cons l lines ih =>
      rw [blockText_cons]
      simp only [List.length_append, List.length_cons] at ih ⊢
      omega

/-- The first line of a block, with its carriage return. -/
theorem getline_blockText {l : Str} (hl : '\n' ∉ l) (lines : List Str) (rest : Str) :
    getline (blockText (l :: lines) ++ rest) = some (l ++ ['\r'], blockText lines ++ rest) := by
  have htext : blockText (l :: lines) ++ rest =
      (l ++ ['\r']) ++ '\n' :: (blockText lines ++ rest) := by
    rw [blockText_cons]
    simp
  rw [htext]
  apply getline_append
  simpa using hl

/-- A block is read up to its end. -/
theorem headerBlock_blockText {lines : List Str} (h : ∀ l ∈ lines, l ≠ [] ∧ '\n' ∉ l)
    (rest : Str) :
    headerBlock (blockText lines ++ rest).length (blockText lines ++ rest) =
      (lines.map (· ++ ['\r']), rest) := by
  have htext : blockText lines ++ rest =
      (lines.map (· ++ ['\r'])).flatMap (· ++ ['\n']) ++ '\r' :: '\n' :: rest := by
    simp [blockText, crlf, List.flatMap_map]
  have hlines : ∀ l ∈ lines.map (· ++ ['\r']), '\n' ∉ l ∧ l ≠ [] ∧ l ≠ ['\r'] := by
    intro l hl
    obtain ⟨m, hm, rfl⟩ := List.mem_map.mp hl
    obtain ⟨hne, hnewline⟩ := h m hm
    refine ⟨by simpa using hnewline, by simp, ?_⟩
    simpa using hne
  have hlen : (lines.map (· ++ ['\r'])).length < (blockText lines ++ rest).length := by
    rw [List.length_map]
    exact length_lt_blockText lines rest
  generalize (blockText lines ++ rest).length = n at hlen
  rw [htext]
  exact headerBlock_append hlines hlen rest

/-- What starts with a character that does not occur in `l` starts behind `l`. -/
theorem infix_of_infix_append {c : Char} {t l s : Str} (hc : c ∉ l) (h : (c :: t) <:+: l ++ s) :
    (c :: t) <:+: s := by
  induction l with
  | nil => exact h
  | cons d l ih =>
      rw [List.cons_append, List.infix_cons_iff] at h
      rcases h with h | h
      · have heq : c = d := (List.cons_prefix_cons.mp h).1
        exact absurd (heq ▸ List.mem_cons_self) hc
      · exact ih (fun hmem => hc (List.mem_cons_of_mem _ hmem)) h

/-- A block without its last character does not contain the end of a block. -/
theorem not_infix_block {lines : List Str} (h : ∀ l ∈ lines, IsLine l) :
    ¬ (crlf ++ crlf) <:+: lines.flatMap (· ++ crlf) ++ ['\r'] := by
  induction lines with
  | nil =>
      intro hin
      have hle := hin.length_le
      simp [crlf] at hle
  | cons l lines ih =>
      have hl := h l List.mem_cons_self
      have hlines : ∀ l ∈ lines, IsLine l := fun l hl => h l (List.mem_cons_of_mem _ hl)
      intro hin
      have hsplit : (l :: lines).flatMap (· ++ crlf) ++ ['\r'] =
          l ++ '\r' :: '\n' :: (lines.flatMap (· ++ crlf) ++ ['\r']) := by
        simp [crlf]
      rw [hsplit] at hin
      have hbehind := infix_of_infix_append hl.2.1 hin
      rcases List.infix_cons_iff.mp hbehind with hfirst | hbehind
      · -- the next line would have to be empty
        have hnext : crlf <+: lines.flatMap (· ++ crlf) ++ ['\r'] := by
          have h1 := (List.cons_prefix_cons.mp hfirst).2
          exact (List.cons_prefix_cons.mp h1).2
        cases lines with
        | nil =>
            have hle := hnext.length_le
            simp [crlf] at hle
        | cons m lines =>
            obtain ⟨hne, hcr, _⟩ := hlines m List.mem_cons_self
            cases m with
            | nil => exact hne rfl
            | cons d m =>
                have heq : '\r' = d := (List.cons_prefix_cons.mp hnext).1
                exact hcr (heq ▸ List.mem_cons_self)
      · rcases List.infix_cons_iff.mp hbehind with hfirst | hbehind
        · exact absurd (List.cons_prefix_cons.mp hfirst).1 (by decide)
        · exact ih hlines hbehind

/-- A block that has a line ends with two line ends. -/
theorem infix_blockText {lines : List Str} (hne : lines ≠ []) :
    (crlf ++ crlf) <:+: blockText lines := by
  obtain ⟨front, l, rfl⟩ : ∃ front l, lines = front ++ [l] :=
    ⟨_, _, (List.dropLast_append_getLast hne).symm⟩
  refine ⟨front.flatMap (· ++ crlf) ++ l, [], ?_⟩
  simp [blockText]

/-- **The end of a block is seen exactly when all of it has arrived.** -/
theorem terminated_iff_of_block {lines : List Str} (h : ∀ l ∈ lines, IsLine l) (hne : lines ≠ [])
    {body buffer : Str} (hbuffer : buffer <+: blockText lines ++ body) :
    terminated buffer = true ↔ blockText lines <+: buffer := by
  rw [terminated_iff]
  constructor
  · intro hin
    by_contra hshort
    have hprefix : buffer <+: lines.flatMap (· ++ crlf) ++ ['\r'] := by
      have hlt : buffer.length < (blockText lines).length := by
        by_contra hle
        refine hshort (List.prefix_of_prefix_length_le (List.prefix_append _ _) hbuffer ?_)
        omega
      have hblock : lines.flatMap (· ++ crlf) ++ ['\r'] <+: blockText lines ++ body := by
        refine ⟨'\n' :: body, ?_⟩
        simp [blockText, crlf]
      refine List.prefix_of_prefix_length_le hbuffer hblock ?_
      simp [blockText, crlf] at hlt ⊢
      omega
    exact not_infix_block h (hin.trans hprefix.isInfix)
  · intro hprefix
    exact (infix_blockText hne).trans hprefix.isInfix

/-- Lines that do not start with a carriage return do not contain the end of a block
either, where carriage returns may occur in them. -/
theorem not_infix_of_head {lines : List Str}
    (h : ∀ l ∈ lines, '\n' ∉ l ∧ ∃ c rest, l = c :: rest ∧ c ≠ '\r') :
    ¬ ('\n' :: crlf) <:+: lines.flatMap (· ++ crlf) ++ ['\r'] := by
  induction lines with
  | nil =>
      intro hin
      have hle := hin.length_le
      simp [crlf] at hle
  | cons l lines ih =>
      have hlines : ∀ l ∈ lines, '\n' ∉ l ∧ ∃ c rest, l = c :: rest ∧ c ≠ '\r' :=
        fun l hl => h l (List.mem_cons_of_mem _ hl)
      intro hin
      have hsplit : (l :: lines).flatMap (· ++ crlf) ++ ['\r'] =
          (l ++ ['\r']) ++ '\n' :: (lines.flatMap (· ++ crlf) ++ ['\r']) := by
        simp [crlf]
      have hl : '\n' ∉ l ++ ['\r'] := by simpa using (h l List.mem_cons_self).1
      rw [hsplit] at hin
      rcases List.infix_cons_iff.mp (infix_of_infix_append hl hin) with hfirst | hbehind
      · have hnext : crlf <+: lines.flatMap (· ++ crlf) ++ ['\r'] :=
          (List.cons_prefix_cons.mp hfirst).2
        cases lines with
        | nil =>
            have hle := hnext.length_le
            simp [crlf] at hle
        | cons m lines =>
            obtain ⟨_, c, rest, rfl, hc⟩ := hlines m List.mem_cons_self
            exact hc (List.cons_prefix_cons.mp hnext).1.symm
      · exact ih hlines hbehind

/-- Of such a block nothing but the whole is terminated. -/
theorem terminated_iff_eq_blockText {lines : List Str}
    (h : ∀ l ∈ lines, '\n' ∉ l ∧ ∃ c rest, l = c :: rest ∧ c ≠ '\r') (hne : lines ≠ [])
    {buffer : Str} (hbuffer : buffer <+: blockText lines) :
    terminated buffer = true ↔ buffer = blockText lines := by
  rw [terminated_iff]
  constructor
  · intro hin
    by_contra hshort
    have hlt : buffer.length < (blockText lines).length := by
      have hle := hbuffer.length_le
      have hdiffer : buffer.length ≠ (blockText lines).length :=
        fun heq => hshort (hbuffer.eq_of_length heq)
      omega
    have hblock : lines.flatMap (· ++ crlf) ++ ['\r'] <+: blockText lines := by
      refine ⟨['\n'], ?_⟩
      simp [blockText, crlf]
    have hprefix : buffer <+: lines.flatMap (· ++ crlf) ++ ['\r'] := by
      refine List.prefix_of_prefix_length_le hbuffer hblock ?_
      simp [blockText, crlf] at hlt ⊢
      omega
    have htail : ('\n' :: crlf) <:+: crlf ++ crlf := ⟨['\r'], [], rfl⟩
    exact not_infix_of_head h (htail.trans (hin.trans hprefix.isInfix))
  · rintro rfl
    exact infix_blockText hne

end Protogate.Lib
