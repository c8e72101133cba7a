import Protogate.Lib.HeaderBlock
import Protogate.Lib.LastMatch
import Protogate.Proxy.HttpProxy

/-!
# Parsing a request

`HTTPProxy::parse_request` turns the text of a request into an `HTTPRequest`.
Header names are stored in lower case, so fields whose names differ in case only
overwrite each other; everything behind the empty line is the body.

## Main definitions

* `parseRequest` — the parser.
* `RawRequest` — a request as a client writes it, with its text.
* `parseRequest_text` — what is parsed from the text of a request.
-/

namespace Protogate.Proxy

open Protogate.Lib

/-! ## The parser -/

def isBlank (c : Char) : Bool := c = ' ' || c = '\t'

/-- `::tolower` on every character. -/
def lower (name : Str) : Str := name.map Char.toLower

/-- The header map and the `host` of a request while its header lines are read. -/
structure HeaderFields where
  headers : Assoc Str Str
  host : Str

/-- The body of the loop over header lines. -/
def HeaderFields.add (h : HeaderFields) (line : Str) : HeaderFields :=
  match splitColon (popCr line) with
  | none => h
  | some (name, value) =>
      let name := lower name
      let value := trim isBlank value
      ⟨h.headers.insert name value, if name = "host".toList then value else h.host⟩

/-- The entries of an `unordered_map`, in some order. -/
def entryList (headers : Assoc Str Str) : List (Str × Str) := headers.entries.map fun e => (e.1, e.2)

/-- `parse_request`; a buffer without a line is invalid. -/
def parseRequest (buffer : Str) : Option HTTPRequest :=
  match getline buffer with
  | none => none
  | some (line, stream) =>
      let (method, words) := extractWord (popCr line)
      let (path, words) := extractWord words
      let (version, _) := extractWord words
      let (lines, body) := headerBlock stream.length stream
      let fields := lines.foldl HeaderFields.add ⟨∅, []⟩
      some {
        method, path, version, body
        host := fields.host
        clientIp := []
        headers := entryList fields.headers }

theorem mem_entryList {headers : Assoc Str Str} {name value : Str} :
    (name, value) ∈ entryList headers ↔ headers.lookup name = some value := by
  rw [← Assoc.mem_entries_iff, entryList, List.mem_map]
  constructor
  · rintro ⟨e, he, heq⟩
    cases heq
    exact he
  · exact fun h => ⟨_, h, rfl⟩

/-- The names are distinct. -/
theorem nodup_entryList (headers : Assoc Str Str) : ((entryList headers).map Prod.fst).Nodup := by
  have hkeys := headers.nodupKeys
  rw [List.NodupKeys] at hkeys
  simpa [entryList, List.keys, Function.comp_def] using hkeys

/-! ## Names in lower case -/

/-- Upper-case letters become lower-case ones, and nothing else changes. -/
theorem toLower_cases (c : Char) : c.toLower = c ∨
    (65 ≤ c.val.toNat ∧ c.val.toNat ≤ 90 ∧ c.toLower.val.toNat = c.val.toNat + 32) := by
  by_cases hupper : c.val ≥ 'A'.val ∧ c.val ≤ 'Z'.val
  · right
    have hval : c.toLower.val = c.val + ('a'.val - 'A'.val) := congrArg Char.val (dif_pos hupper)
    rw [hval]
    simp [UInt32.le_iff_toNat_le, UInt32.toNat_add] at hupper ⊢
    omega
  · exact .inl (dif_neg hupper)

theorem isLower_iff (c : Char) : c.isLower = true ↔ 97 ≤ c.val.toNat ∧ c.val.toNat ≤ 122 := by
  have hdef : c.isLower = (decide (c.val ≥ 'a'.val) && decide (c.val ≤ 'z'.val)) := rfl
  simp [hdef, UInt32.le_iff_toNat_le]

theorem toLower_toLower (c : Char) : c.toLower.toLower = c.toLower := by
  obtain hsame | ⟨_, _, hval⟩ := toLower_cases c
  · rw [hsame, hsame]
  · obtain hsame | ⟨hge, hle, _⟩ := toLower_cases c.toLower
    · exact hsame
    · omega

/-- Only lower-case letters are made of other characters. -/
theorem eq_of_toLower_eq {c d : Char} (hd : d.isLower = false) (h : c.toLower = d) : c = d := by
  obtain hsame | ⟨hge, hle, hval⟩ := toLower_cases c
  · rw [← h, hsame]
  · have hlower : d.isLower = true := by
      rw [isLower_iff, ← h]
      omega
    rw [hlower] at hd
    cases hd

@[simp] theorem lower_lower (name : Str) : lower (lower name) = lower name := by
  simp only [lower, List.map_map]
  exact List.map_congr_left fun c _ => toLower_toLower c

theorem not_mem_lower {d : Char} (hd : d.isLower = false) {name : Str} (h : d ∉ name) :
    d ∉ lower name := by
  intro hmem
  obtain ⟨c, hc, heq⟩ := List.mem_map.mp hmem
  exact h (eq_of_toLower_eq hd heq ▸ hc)

/-! ## Raw requests -/

/-- A nonempty word without white space. -/
def IsWord (s : Str) : Prop := s ≠ [] ∧ ∀ c ∈ s, isSpace c = false

instance (s : Str) : Decidable (IsWord s) :=
  decidable_of_iff ((! s.isEmpty && s.all (! isSpace ·)) = true) (by simp [IsWord])

/-- A request as a client writes it: the words of the request line, the fields with
their names in any case and their values with the blanks around them, and the body. -/
structure RawRequest where
  method : Str
  path : Str
  version : Str
  fields : List (Str × Str)
  body : Str
  method_word : IsWord method
  path_word : IsWord path
  version_word : IsWord version
  name_ok : ∀ f ∈ fields, ':' ∉ f.1 ∧ '\r' ∉ f.1 ∧ '\n' ∉ f.1
  value_ok : ∀ f ∈ fields, '\r' ∉ f.2 ∧ '\n' ∉ f.2

namespace RawRequest

def requestLine (r : RawRequest) : Str := r.method ++ ' ' :: (r.path ++ ' ' :: r.version)

def fieldLine (f : Str × Str) : Str := f.1 ++ ':' :: f.2

/-- The lines before the empty one. -/
def lines (r : RawRequest) : List Str := r.requestLine :: r.fields.map fieldLine

def text (r : RawRequest) : Str := blockText r.lines ++ r.body

/-- The size of the body is given by a `Content-Length` field, or there is none. -/
def DeclaresBody (r : RawRequest) : Prop :=
  r.body = [] ∨ ∃ f ∈ r.fields, lower f.1 = "content-length".toList ∧
    trim isBlank f.2 = decimal r.body.length

/-- The fields with the blanks around their values removed. -/
def values (r : RawRequest) : List (Str × Str) := r.fields.map fun f => (f.1, trim isBlank f.2)

/-- The value of the last field whose name satisfies `p`. -/
def lastValue (p : Str → Bool) (values : List (Str × Str)) : Option Str :=
  (lastMatch (fun f => p f.1) values).map Prod.snd

/-- The value of the last field with the name spelled like this. -/
def valueOf (r : RawRequest) (name : Str) : Option Str := lastValue (fun n => decide (n = name)) r.values

/-- The value of the last field whose name is `name` in lower case. -/
def valueOfLower (r : RawRequest) (name : Str) : Option Str :=
  lastValue (fun n => decide (lower n = name)) r.values

end RawRequest

/-! ## The text of a request is parsed -/

open RawRequest

theorem ne_of_isSpace {c d : Char} (hc : isSpace c = false) (hd : isSpace d = true) : d ≠ c := by
  rintro rfl
  rw [hc] at hd
  cases hd

theorem IsWord.not_mem {s : Str} (h : IsWord s) {d : Char} (hd : isSpace d = true) : d ∉ s :=
  fun hmem => ne_of_isSpace (h.2 d hmem) hd rfl

theorem RawRequest.isLine (r : RawRequest) : ∀ l ∈ r.lines, IsLine l := by
  intro l hl
  rcases List.mem_cons.mp hl with rfl | hl
  · have hspace : ∀ d, isSpace d = true → d ≠ ' ' → d ∉ r.requestLine := by
      intro d hd hne hmem
      simp only [requestLine, List.mem_append, List.mem_cons, hne, false_or] at hmem
      rcases hmem with hmem | hmem | hmem
      · exact r.method_word.not_mem hd hmem
      · exact r.path_word.not_mem hd hmem
      · exact r.version_word.not_mem hd hmem
    refine ⟨?_, hspace '\r' rfl (by decide), hspace '\n' rfl (by decide)⟩
    simp [requestLine]
  · obtain ⟨f, hf, rfl⟩ := List.mem_map.mp hl
    obtain ⟨_, hcr, hnewline⟩ := r.name_ok f hf
    obtain ⟨hcr', hnewline'⟩ := r.value_ok f hf
    refine ⟨?_, ?_, ?_⟩ <;> simp [fieldLine, hcr, hnewline, hcr', hnewline']

theorem RawRequest.isLine_fields (r : RawRequest) :
    ∀ l ∈ r.fields.map fieldLine, l ≠ [] ∧ '\n' ∉ l := by
  intro l hl
  obtain ⟨hne, _, hnewline⟩ := r.isLine l (List.mem_cons_of_mem _ hl)
  exact ⟨hne, hnewline⟩

/-- The words of the request line, with something that is white space behind them. -/
theorem RawRequest.words (r : RawRequest) {c : Char} (hc : isSpace c = true) (rest : Str) :
    extractWord (r.requestLine ++ c :: rest) =
        (r.method, ' ' :: (r.path ++ ' ' :: (r.version ++ c :: rest))) ∧
      extractWord (' ' :: (r.path ++ ' ' :: (r.version ++ c :: rest))) =
        (r.path, ' ' :: (r.version ++ c :: rest)) ∧
      extractWord (' ' :: (r.version ++ c :: rest)) = (r.version, c :: rest) := by
  have hblank : isSpace ' ' = true := rfl
  have hline : r.requestLine ++ c :: rest =
      r.method ++ ' ' :: (r.path ++ ' ' :: (r.version ++ c :: rest)) := by
    simp [requestLine]
  rw [hline]
  refine ⟨?_, ?_, ?_⟩
  · exact extractWord_append r.method_word.2 r.method_word.1 hblank _
  · rw [extractWord_cons hblank]
    exact extractWord_append r.path_word.2 r.path_word.1 hblank _
  · rw [extractWord_cons hblank]
    exact extractWord_append r.version_word.2 r.version_word.1 hc _

/-- The words of the request line alone. -/
theorem RawRequest.words_self (r : RawRequest) :
    extractWord r.requestLine = (r.method, ' ' :: (r.path ++ ' ' :: r.version)) ∧
      extractWord (' ' :: (r.path ++ ' ' :: r.version)) = (r.path, ' ' :: r.version) ∧
      extractWord (' ' :: r.version) = (r.version, []) := by
  have hblank : isSpace ' ' = true := rfl
  refine ⟨?_, ?_, ?_⟩
  · exact extractWord_append r.method_word.2 r.method_word.1 hblank _
  · rw [extractWord_cons hblank]
    exact extractWord_append r.path_word.2 r.path_word.1 hblank _
  · rw [extractWord_cons hblank]
    exact extractWord_self r.version_word.2

/-- A field line adds its field. -/
theorem add_fieldLine {f : Str × Str} (hf : ':' ∉ f.1) (h : HeaderFields) :
    h.add (fieldLine f ++ ['\r']) =
      ⟨h.headers.insert (lower f.1) (trim isBlank f.2),
        if lower f.1 = "host".toList then trim isBlank f.2 else h.host⟩ := by
  simp only [HeaderFields.add, popCr_concat, fieldLine, splitColon_append hf]

theorem lastValue_concat (p : Str → Bool) (values : List (Str × Str)) (f : Str × Str) :
    lastValue p (values ++ [f]) = if p f.1 then some f.2 else lastValue p values := by
  simp only [lastValue, lastMatch_concat]
  split <;> rfl

/-- The header map and the host after a list of fields. -/
theorem foldl_add {fields : List (Str × Str)} (hfields : ∀ f ∈ fields, ':' ∉ f.1) :
    ((fields.map fieldLine).map (· ++ ['\r'])).foldl HeaderFields.add ⟨∅, []⟩ =
      ⟨(fields.map fun f => (f.1, trim isBlank f.2)).foldl
          (fun m f => AList.insert (lower f.1) f.2 m) ∅,
        (lastValue (fun n => decide (lower n = "host".toList))
          (fields.map fun f => (f.1, trim isBlank f.2))).getD []⟩ := by
  induction fields using List.reverseRecOn with
  | nil => rfl
  | append_singleton fields f ih =>
      have hrest := ih fun g hg => hfields g (List.mem_append_left _ hg)
      have hcolon := hfields f (by simp)
      simp only [List.map_append, List.map_cons, List.map_nil, List.foldl_append, List.foldl_cons,
        List.foldl_nil, hrest, add_fieldLine hcolon, lastValue_concat]
      congr 1
      by_cases hhost : lower f.1 = "host".toList
      · rw [if_pos hhost, if_pos (by simpa using hhost)]
        rfl
      · rw [if_neg hhost, if_neg (by simpa using hhost)]

/-- The header map that `parse_request` makes of the fields. -/
def RawRequest.lowerHeaders (r : RawRequest) : Assoc Str Str :=
  r.values.foldl (fun m f => AList.insert (lower f.1) f.2 m) ∅

theorem lookup_lowerHeaders (r : RawRequest) (name : Str) :
    r.lowerHeaders.lookup name = r.valueOfLower name :=
  lookup_foldl_insert (fun f : Str × Str => lower f.1) Prod.snd r.values name

/-- What `parse_request` makes of a request whose body has arrived as `body`. -/
def RawRequest.parsed (r : RawRequest) (body : Str) : HTTPRequest where
  method := r.method
  path := r.path
  version := r.version
  host := (r.valueOfLower "host".toList).getD []
  clientIp := []
  headers := entryList r.lowerHeaders
  body := body

/-- **The text of a request is parsed into its parts**, however much of the body has
arrived. -/
theorem parseRequest_text (r : RawRequest) (body : Str) :
    parseRequest (blockText r.lines ++ body) = some (r.parsed body) := by
  have hnewline : '\n' ∉ r.requestLine := (r.isLine _ List.mem_cons_self).2.2
  obtain ⟨hmethod, hpath, hversion⟩ := r.words_self
  have hcolon : ∀ f ∈ r.fields, ':' ∉ f.1 := fun f hf => (r.name_ok f hf).1
  simp only [parseRequest, RawRequest.lines, getline_blockText hnewline, popCr_concat, hmethod, hpath,
    hversion, headerBlock_blockText r.isLine_fields, foldl_add hcolon]
  rfl

end Protogate.Proxy
