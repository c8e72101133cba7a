import Protogate.Lib.HeaderBlock
import Protogate.Lib.LastMatch

/-!
# Messages of HTTP/1.1

A message is a start line, fields and a body.  Names of fields are compared without regard to
case.  Who reads a stream of messages takes the length of a body from its fields, so a message
is found in the stream, with what follows it, if its fields announce the length that it has;
announcing less leaves the rest of the body to be read as the next message.

A request without a length has no body.  A response without one ends with the connection, unless
its status code says that it has no body.  Bodies with a transfer coding are not read here.

## Main definitions

* `set`, `lookupField` — fields as a container, and what it finds.
* `HttpMessage`, `HttpMessage.text` — a message and how it is written.
* `bodyLength` — the length that fields announce.
* `readMessage`, `readMessage_text_iff` — what a reader takes from a stream of requests, or of
  responses that all announce their lengths.
* `readResponse`, `readResponse_text_iff` — what a client takes from a stream of responses.
-/

namespace Protogate.Lib

/-! ## Fields -/

/-- Names and values, in the order they are written. -/
abbrev Fields := List (Str × Str)

/-- A name up to the case of its letters. -/
def foldCase (name : Str) : Str := name.map Char.toLower

namespace Fields

/-- The values of a name. -/
def values (fields : Fields) (name : Str) : List Str :=
  (fields.filter fun f => foldCase f.1 = foldCase name).map Prod.snd

/-- The value of a name, the first if there are several. -/
def lookupField (fields : Fields) (name : Str) : Option Str := (fields.values name).head?

/-- The last value of a name. -/
def lastField (fields : Fields) (name : Str) : Option Str :=
  (lastMatch (fun f => decide (foldCase f.1 = foldCase name)) fields).map Prod.snd

/-- All fields of the name go, and one is added. -/
def set (fields : Fields) (name value : Str) : Fields :=
  (fields.filter fun f => foldCase f.1 ≠ foldCase name) ++ [(name, value)]

/-- No two names are the same. -/
def Distinct (fields : Fields) : Prop := (fields.map fun f => foldCase f.1).Nodup

@[simp] theorem values_nil (name : Str) : values [] name = [] := rfl

theorem values_append (fields more : Fields) (name : Str) :
    values (fields ++ more) name = fields.values name ++ more.values name := by
  simp [values]

theorem values_singleton (other value name : Str) :
    values [(other, value)] name = if foldCase other = foldCase name then [value] else [] := by
  by_cases h : foldCase other = foldCase name <;> simp [values, h]

theorem values_perm {fields more : Fields} (h : fields.Perm more) (name : Str) :
    (fields.values name).Perm (more.values name) := (h.filter _).map _

theorem values_set_self (fields : Fields) {name other : Str} (h : foldCase other = foldCase name)
    (value : Str) : (fields.set name value).values other = [value] := by
  simp [values, set, h]

theorem values_set_of_ne (fields : Fields) {name other : Str} (h : foldCase other ≠ foldCase name)
    (value : Str) : (fields.set name value).values other = fields.values other := by
  have hfirst : ∀ f : Str × Str, foldCase f.1 = foldCase other → foldCase f.1 ≠ foldCase name :=
    fun f hf => hf ▸ h
  simp only [values, set, List.filter_append, List.filter_filter, List.filter_cons, List.filter_nil,
    Ne.symm h, decide_false, Bool.false_eq_true, if_false, List.append_nil]
  congr 1
  apply List.filter_congr
  intro f _
  by_cases hf : foldCase f.1 = foldCase other
  · simp [hf, h]
  · simp [hf]

@[simp] theorem lookupField_nil (name : Str) : lookupField [] name = none := rfl

theorem lookupField_set (fields : Fields) (name value other : Str) :
    (fields.set name value).lookupField other =
      if foldCase other = foldCase name then some value else fields.lookupField other := by
  by_cases h : foldCase other = foldCase name
  · simp [lookupField, values_set_self fields h, h]
  · simp [lookupField, values_set_of_ne fields h, h]

theorem distinct_nil : Distinct [] := List.nodup_nil

theorem Distinct.set {fields : Fields} (H : fields.Distinct) (name value : Str) :
    (fields.set name value).Distinct := by
  rw [Distinct, Fields.set, List.map_append, List.nodup_append]
  refine ⟨H.sublist (List.filter_sublist.map _), by simp, ?_⟩
  intro a ha b hb heq
  obtain ⟨f, hf, rfl⟩ := List.mem_map.mp ha
  have hne : foldCase f.1 ≠ foldCase name := by simpa using (List.mem_filter.mp hf).2
  apply hne
  simpa [heq] using hb

/-- Where names are distinct, a name has one value at most. -/
theorem Distinct.values_eq {fields : Fields} (H : fields.Distinct) (name : Str) :
    fields.values name = (fields.lookupField name).toList := by
  have hcount := List.nodup_iff_count.mp H (foldCase name)
  have hone : (fields.values name).length ≤ 1 := by
    rw [values, List.length_map, ← List.countP_eq_length_filter]
    simpa [List.count, List.countP_map, Function.comp_def, beq_eq_decide] using hcount
  rw [lookupField]
  match fields.values name, hone with
  | [], _ => rfl
  | [v], _ => rfl

theorem Distinct.lookupField_eq_some_iff {fields : Fields} (H : fields.Distinct) {name value : Str} :
    fields.lookupField name = some value ↔ ∃ f ∈ fields, foldCase f.1 = foldCase name ∧ f.2 = value := by
  rw [← Option.mem_toList, ← H.values_eq, values]
  simp [and_assoc]

end Fields

/-! ## Messages -/

structure HttpMessage where
  startLine : Str
  fields : Fields
  body : Str
  deriving DecidableEq

/-- A field as it is written. -/
def fieldText (f : Str × Str) : Str := f.1 ++ ':' :: ' ' :: f.2

def HttpMessage.text (m : HttpMessage) : Str :=
  blockText (m.startLine :: m.fields.map fieldText) ++ m.body

/-- Blanks around the value of a field. -/
def isOws (c : Char) : Bool := c = ' ' || c = '\t'

theorem trim_numeral {s : Str} (h : IsNumeral s) : trim isOws s = s := by
  have hnone : ∀ c ∈ s, isOws c = false := by
    intro c hc
    have hdigit := h.2 c hc
    have hblank : c ≠ ' ' := fun h => absurd (h ▸ hdigit) (by decide)
    have htab : c ≠ '\t' := fun h => absurd (h ▸ hdigit) (by decide)
    simp [isOws, hblank, htab]
  have hnil : ∀ s : Str, s.dropWhile (fun _ => false) = s := fun s => by cases s <;> rfl
  rw [trim_congr (q := fun _ => false) hnone, trim, List.rdropWhile, hnil, hnil, List.reverse_reverse]

theorem not_mem_decimal {c : Char} (hc : c.isDigit = false) (n : ℕ) : c ∉ decimal n := by
  intro hmem
  have hdigit := (isNumeral_decimal n).2 c hmem
  simp [hc] at hdigit

theorem trim_decimal (n : ℕ) : trim isOws (decimal n) = decimal n :=
  trim_numeral (isNumeral_decimal n)

/-- The length that the fields of a request announce: that of Content-Length, and 0 without it.
Those of a response are read with its code, by `responseLength`. -/
def bodyLength (fields : Fields) : Option ℕ :=
  if fields.values "transfer-encoding".toList ≠ [] then none
  else
    match fields.values "content-length".toList with
    | [] => some 0
    | [v] => if IsNumeral v then some (digitsValue v) else none
    | _ => none

theorem bodyLength_eq_some_iff {fields : Fields} {n : ℕ} :
    bodyLength fields = some n ↔ fields.values "transfer-encoding".toList = [] ∧
      (fields.values "content-length".toList = [] ∧ n = 0 ∨
        ∃ v, fields.values "content-length".toList = [v] ∧ IsNumeral v ∧ digitsValue v = n) := by
  rw [bodyLength]
  generalize fields.values "transfer-encoding".toList = codings
  generalize fields.values "content-length".toList = lengths
  by_cases hcoding : codings = []
  · match lengths with
    | [] => simp [hcoding, eq_comm]
    | [v] => simp [hcoding]
    | _ :: _ :: _ => simp [hcoding]
  · simp [hcoding]

/-- The name and the value of a line. -/
def readField (line : Str) : Option (Str × Str) :=
  (splitColon (popCr line)).map fun f => (f.1, trim isOws f.2)

/-- The first message of a stream, and the rest of it; `announced` tells the length of its body by
the start line, the fields and all that is left of the stream. -/
def readFirst (announced : Str → Fields → Str → Option ℕ) (stream : Str) : Option (HttpMessage × Str) := do
  let (line, rest) ← getline stream
  let (lines, rest) := headerBlock rest.length rest
  let fields ← lines.mapM readField
  let n ← announced (popCr line) fields rest
  if rest.length < n then none else some (⟨popCr line, fields, rest.take n⟩, rest.drop n)

/-- The first message, whose length is that which its fields announce. -/
def readMessage (stream : Str) : Option (HttpMessage × Str) :=
  readFirst (fun _ fields _ => bodyLength fields) stream

/-- What can be written so that it is read back: lines without line ends, names without a
colon, values without blanks around them. -/
structure HttpMessage.Clean (m : HttpMessage) : Prop where
  start : '\n' ∉ m.startLine
  name : ∀ f ∈ m.fields, '\n' ∉ f.1 ∧ ':' ∉ f.1
  value : ∀ f ∈ m.fields, '\n' ∉ f.2 ∧ trim isOws f.2 = f.2

/-- A field that can be written. -/
def CleanField (f : Str × Str) : Prop :=
  ('\n' ∉ f.1 ∧ ':' ∉ f.1) ∧ '\n' ∉ f.2 ∧ trim isOws f.2 = f.2

theorem HttpMessage.clean_iff {m : HttpMessage} :
    m.Clean ↔ '\n' ∉ m.startLine ∧ ∀ f ∈ m.fields, CleanField f :=
  ⟨fun H => ⟨H.start, fun f hf => ⟨H.name f hf, H.value f hf⟩⟩,
    fun H => ⟨H.1, fun f hf => (H.2 f hf).1, fun f hf => (H.2 f hf).2⟩⟩

theorem readField_fieldText {f : Str × Str} (hname : ':' ∉ f.1) (hvalue : trim isOws f.2 = f.2) :
    readField (fieldText f ++ ['\r']) = some f := by
  rw [readField, popCr_concat, fieldText, splitColon_append hname, Option.map_some, trim_cons rfl, hvalue]

theorem mapM_readField {fields : Fields} (h : ∀ f ∈ fields, ':' ∉ f.1 ∧ trim isOws f.2 = f.2) :
    ((fields.map fieldText).map (· ++ ['\r'])).mapM readField = some fields := by
  induction fields with
  | nil => rfl
  | cons f fields ih =>
      have hf := h f List.mem_cons_self
      have hrest := ih fun f hf => h f (List.mem_cons_of_mem _ hf)
      rw [List.map_cons, List.map_cons, List.mapM_cons, readField_fieldText hf.1 hf.2, hrest]
      rfl

section
variable {announced : Str → Fields → Str → Option ℕ}

/-- What a reader makes of the text of a message and what follows. -/
theorem readFirst_append {m : HttpMessage} (H : m.Clean) (rest : Str) :
    readFirst announced (m.text ++ rest) =
      (announced m.startLine m.fields (m.body ++ rest)).bind fun n =>
        if (m.body ++ rest).length < n then none
        else some (⟨m.startLine, m.fields, (m.body ++ rest).take n⟩, (m.body ++ rest).drop n) := by
  have htext : m.text ++ rest =
      blockText (m.startLine :: m.fields.map fieldText) ++ (m.body ++ rest) := by
    rw [HttpMessage.text, List.append_assoc]
  have hlines : ∀ l ∈ m.fields.map fieldText, l ≠ [] ∧ '\n' ∉ l := by
    intro l hl
    obtain ⟨f, hf, rfl⟩ := List.mem_map.mp hl
    simp [fieldText, (H.name f hf).1, (H.value f hf).1]
  have hfields := mapM_readField fun f hf => ⟨(H.name f hf).2, (H.value f hf).2⟩
  rw [htext, readFirst, getline_blockText H.start]
  simp only [Option.bind_eq_bind, Option.bind_some, headerBlock_blockText hlines, hfields, popCr_concat]

/-- Who finds what follows a message has found this message, and knows the length of its body. -/
theorem readFirst_text_eq_iff {m : HttpMessage} (H : m.Clean) (m' : HttpMessage) (rest : Str) :
    readFirst announced (m.text ++ rest) = some (m', rest) ↔
      m' = m ∧ announced m.startLine m.fields (m.body ++ rest) = some m.body.length := by
  rw [readFirst_append H]
  cases hlength : announced m.startLine m.fields (m.body ++ rest) with
  | none => simp
  | some n =>
      simp only [Option.bind_some, Option.some.injEq]
      constructor
      · intro h
        split at h
        · cases h
        · -- what is left tells the length
          obtain ⟨rfl, hdrop⟩ := Prod.mk.inj (Option.some.inj h)
          have hlen := congrArg List.length hdrop
          rename_i hshort
          simp only [List.length_drop, List.length_append] at hlen hshort
          obtain rfl : n = m.body.length := by omega
          exact ⟨by rw [List.take_left], rfl⟩
      · rintro ⟨rfl, rfl⟩
        have hlong : ¬ (m'.body ++ rest).length < m'.body.length := by
          rw [List.length_append]
          omega
        rw [if_neg hlong, List.take_left, List.drop_left]

end

/-- Who finds what follows a message has found this message, and its fields announce the length
of its body. -/
theorem readMessage_text_eq_iff {m : HttpMessage} (H : m.Clean) (m' : HttpMessage) (rest : Str) :
    readMessage (m.text ++ rest) = some (m', rest) ↔
      m' = m ∧ bodyLength m.fields = some m.body.length :=
  readFirst_text_eq_iff H m' rest

/-- **A message is found in a stream exactly if its fields announce the length of its body.** -/
theorem readMessage_text_iff {m : HttpMessage} (H : m.Clean) (rest : Str) :
    readMessage (m.text ++ rest) = some (m, rest) ↔ bodyLength m.fields = some m.body.length := by
  rw [readMessage_text_eq_iff H]
  exact and_iff_right rfl

/-! ## Responses -/

/-- The status code in the start line of a response. -/
def statusOf (startLine : Str) : Option ℕ :=
  let word := ((startLine.dropWhile (· ≠ ' ')).drop 1).takeWhile (· ≠ ' ')
  if IsNumeral word ∧ 100 ≤ digitsValue word ∧ digitsValue word ≤ 999 then some (digitsValue word) else none

/-- A response with such a code has no body, whatever its fields say. -/
def Bodiless (statusCode : ℕ) : Prop := statusCode / 100 = 1 ∨ statusCode = 204 ∨ statusCode = 304

instance (statusCode : ℕ) : Decidable (Bodiless statusCode) := inferInstanceAs (Decidable (_ ∨ _ ∨ _))

/-- The length of the body of a response, to a request other than HEAD or CONNECT: one that
announces none has all that is left. -/
def responseLength (startLine : Str) (fields : Fields) (rest : Str) : Option ℕ := do
  let statusCode ← statusOf startLine
  if Bodiless statusCode then some 0
  else if fields.values "content-length".toList = [] ∧ fields.values "transfer-encoding".toList = [] then
    some rest.length
  else bodyLength fields

/-- The first response of a stream, and the rest of it. -/
def readResponse (stream : Str) : Option (HttpMessage × Str) := readFirst responseLength stream

/-- The end of a body of this length can be told from the code and the fields. -/
def Delimits (statusCode : ℕ) (fields : Fields) (n : ℕ) : Prop :=
  (100 ≤ statusCode ∧ statusCode ≤ 999) ∧
    if Bodiless statusCode then n = 0
    else fields.values "content-length".toList ≠ [] ∧ bodyLength fields = some n

/-- The start line of a response. -/
def statusLine (statusCode : ℕ) (reason : Str) : Str :=
  "HTTP/1.1 ".toList ++ decimal statusCode ++ " ".toList ++ reason

theorem statusOf_statusLine (statusCode : ℕ) (reason : Str) :
    statusOf (statusLine statusCode reason) =
      if 100 ≤ statusCode ∧ statusCode ≤ 999 then some statusCode else none := by
  have hversion : "HTTP/1.1 ".toList = "HTTP/1.1".toList ++ [' '] := by decide
  have hblank : " ".toList = [' '] := rfl
  have hline : statusLine statusCode reason =
      "HTTP/1.1".toList ++ ' ' :: (decimal statusCode ++ ' ' :: reason) := by
    unfold statusLine
    rw [hversion, hblank, List.append_assoc, List.append_assoc, List.append_assoc,
      List.singleton_append, List.singleton_append]
  have hspace : ' ' ∉ "HTTP/1.1".toList := by decide
  have hdigits : ' ' ∉ decimal statusCode := not_mem_decimal rfl statusCode
  rw [statusOf, hline, dropWhile_ne_append hspace, List.drop_one, List.tail_cons,
    takeWhile_ne_append hdigits, digitsValue_decimal]
  simp only [isNumeral_decimal, true_and]

/-- What a client makes of the length of a response with a status line. -/
theorem responseLength_statusLine (statusCode : ℕ) (reason : Str) (fields : Fields) (rest : Str) :
    responseLength (statusLine statusCode reason) fields rest =
      if 100 ≤ statusCode ∧ statusCode ≤ 999 then
        if Bodiless statusCode then some 0
        else if fields.values "content-length".toList = [] ∧
          fields.values "transfer-encoding".toList = [] then some rest.length
        else bodyLength fields
      else none := by
  rw [responseLength, statusOf_statusLine]
  split
  · rfl
  · rfl

/-- **A response is found in front of whatever follows it exactly if it tells where it ends.** -/
theorem readResponse_text_iff {m : HttpMessage} (H : m.Clean) {statusCode : ℕ} {reason : Str}
    (hstart : m.startLine = statusLine statusCode reason) :
    (∀ rest, readResponse (m.text ++ rest) = some (m, rest)) ↔
      Delimits statusCode m.fields m.body.length := by
  have hread : ∀ rest, (readResponse (m.text ++ rest) = some (m, rest) ↔
      responseLength m.startLine m.fields (m.body ++ rest) = some m.body.length) := fun rest =>
    (readFirst_text_eq_iff H m rest).trans (and_iff_right rfl)
  simp only [hread, hstart, responseLength_statusLine, Delimits]
  by_cases hdigits : 100 ≤ statusCode ∧ statusCode ≤ 999
  · simp only [hdigits, if_true, true_and]
    by_cases hbodiless : Bodiless statusCode
    · simp only [hbodiless, if_true, Option.some.injEq, forall_const]
      exact eq_comm
    · simp only [hbodiless, if_false]
      by_cases hlength : m.fields.values "content-length".toList = []
      · -- what follows belongs to the body, or nothing can be read
        simp only [hlength, true_and, ne_eq, not_true_eq_false, false_and, iff_false]
        intro hall
        have hmore := hall [' ']
        split at hmore
        · simp at hmore
        · rename_i hcoding
          rw [bodyLength, if_pos hcoding] at hmore
          cases hmore
      · simp only [hlength, false_and, if_false, forall_const, ne_eq, not_false_eq_true, true_and]
  · simp only [hdigits, if_false, false_and, iff_false]
    exact fun hall => absurd (hall []) (by simp)

end Protogate.Lib
