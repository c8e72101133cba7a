import Protogate.Models.Tunnel
import Protogate.Security.AllowlistPrinting

/-!
# Two checks of a client

`Tunnel::is_ip_allowed` and `IPAllowlist::is_allowed` check a client against the same list, the
first on texts and the second on bits.  The first knows an entry by its spelling, and takes the
widest networks of both families for everybody; so it keeps out the clients of any other
network, and lets clients of one family in by the widest network of the other.

## Main definitions

* `AddressSyntax` — what `inet_pton` accepts.
* `Overlooked`, `CrossFamily` — the two ways in which the checks differ.
* `isIpAllowed_eq_iff` — they agree otherwise.
-/

namespace Protogate.Security

open Protogate.Lib Protogate.Models

def anyIpv4 : Str := "0.0.0.0/0".toList

def anyIpv6 : Str := "::/0".toList

/-- `inet_pton` takes no slash, and the shortest texts of the zero addresses for their families. -/
structure AddressSyntax (pton : InetPton) : Prop where
  ipv4_plain : ∀ s a, pton.ipv4 s = some a → '/' ∉ s
  ipv6_plain : ∀ s a, pton.ipv6 s = some a → '/' ∉ s
  zero_ipv4 : (pton.ipv4 "0.0.0.0".toList).isSome
  zero_ipv6 : pton.ipv4 "::".toList = none

/-- An entry covers the client, and the list has neither its spelling nor a widest network. -/
def Overlooked (pton : InetPton) (allowlist : List Str) (ip : Str) : Prop :=
  (∃ entry ∈ allowlist, Covers pton entry ip) ∧ ip ∉ allowlist ∧ anyIpv4 ∉ allowlist ∧
    anyIpv6 ∉ allowlist

/-- No entry covers the client, and the list has the widest network of the other family. -/
def CrossFamily (pton : InetPton) (allowlist : List Str) (ip : Str) (type : IPType) : Prop :=
  (∀ entry ∈ allowlist, ¬ Covers pton entry ip) ∧
    (type = .ipv6 ∧ anyIpv4 ∈ allowlist ∨ type = .ipv4 ∧ anyIpv6 ∈ allowlist)

theorem isIpAllowed_iff {t : Tunnel} {ip : Str} : t.isIpAllowed ip = true ↔
    t.ipAllowlist = [] ∨ ip ∈ t.ipAllowlist ∨ anyIpv4 ∈ t.ipAllowlist ∨ anyIpv6 ∈ t.ipAllowlist := by
  simp only [Tunnel.isIpAllowed, Bool.or_eq_true, List.isEmpty_iff, List.any_eq_true, beq_iff_eq]
  refine or_congr_right ?_
  constructor
  · rintro ⟨entry, hentry, (rfl | rfl) | rfl⟩
    · exact .inl hentry
    · exact .inr (.inl hentry)
    · exact .inr (.inr hentry)
  · rintro (hentry | hentry | hentry)
    · exact ⟨ip, hentry, .inl (.inl rfl)⟩
    · exact ⟨_, hentry, .inl (.inr rfl)⟩
    · exact ⟨_, hentry, .inr rfl⟩

section
variable {pton : InetPton} {ip : Str} {type : IPType} {client : List Bool}

/-- An address text stands for one address. -/
theorem Address.unique {type' : IPType} {client' : List Bool} (h : Address pton ip type client)
    (h' : Address pton ip type' client') : type = type' ∧ client = client' := by
  cases h with
  | ipv4 h4 =>
      cases h' with
      | ipv4 h4' =>
          cases h4.symm.trans h4'
          exact ⟨rfl, rfl⟩
      | ipv6 hnone _ => cases h4.symm.trans hnone
  | ipv6 hnone h6 =>
      cases h' with
      | ipv4 h4' => cases h4'.symm.trans hnone
      | ipv6 _ h6' =>
          cases h6.symm.trans h6'
          exact ⟨rfl, rfl⟩

/-- What the parser sees of an address has no slash. -/
theorem Address.slash_not_mem (H : AddressSyntax pton) (h : Address pton ip type client) :
    '/' ∉ cStr ip := by
  cases h with
  | ipv4 h4 =>
      obtain ⟨a, ha, _⟩ := Option.map_eq_some_iff.mp h4
      exact H.ipv4_plain _ a ha
  | ipv6 _ h6 =>
      obtain ⟨a, ha, _⟩ := Option.map_eq_some_iff.mp h6
      exact H.ipv6_plain _ a ha

/-- An address depends on what the parser sees. -/
theorem Address.congr {ip' : Str} (h : Address pton ip type client) (hsame : cStr ip = cStr ip') :
    Address pton ip' type client := by
  cases h with
  | ipv4 h4 => exact .ipv4 (by rw [← h4, parseIpv4, parseIpv4, hsame])
  | ipv6 hnone h6 =>
      exact .ipv6 (by rw [← hnone, parseIpv4, parseIpv4, hsame])
        (by rw [← h6, parseIpv6, parseIpv6, hsame])

/-- If there is a slash in an address, it is behind a NUL. -/
theorem cStr_append_slash {front number : Str} (h : '/' ∉ cStr (front ++ '/' :: number)) :
    cStr (front ++ '/' :: number) = cStr front := by
  have hnul : '\x00' ∈ front := by
    by_contra hnot
    refine h ?_
    rw [cStr, List.takeWhile_append_of_pos, List.takeWhile_cons_of_pos (by decide)]
    · simp
    · intro c hc
      simpa using ne_of_mem_of_not_mem hc hnot
  obtain ⟨_, hcut⟩ := eq_append_of_mem hnul
  have hfront : '\x00' ∉ cStr front := (eq_append_of_mem hnul).1
  have htext : front ++ '/' :: number =
      cStr front ++ '\x00' :: ((front.dropWhile (· ≠ '\x00')).drop 1 ++ '/' :: number) := by
    conv_lhs => rw [hcut]
    simp [cStr]
  rw [htext, cStr, takeWhile_ne_append hfront]

/-- An entry that is spelled like the client's address covers it. -/
theorem covers_self (H : AddressSyntax pton) (h : Address pton ip type client)
    (hparses : Parses pton ip) : Covers pton ip ip := by
  obtain ⟨type', address, n, hdenotes⟩ := hparses
  have hsame : type' = type ∧ address = client := by
    have hslash := h.slash_not_mem H
    generalize htext : ip = text at hdenotes
    cases hdenotes with
    | address _ haddress => exact Address.unique (htext ▸ haddress) h
    | cidr _ haddress _ _ =>
        subst htext
        exact Address.unique (haddress.congr (cStr_append_slash hslash).symm) h
  obtain ⟨rfl, rfl⟩ := hsame
  exact ⟨_, _, n, _, hdenotes, h, rfl⟩

/-- The widest network of a family covers all its addresses. -/
theorem covers_any {zero : Str} {address : List Bool} (hslash : '/' ∉ zero)
    (hzero : Address pton zero type address) (h : Address pton ip type client) :
    Covers pton (zero ++ "/0".toList) ip :=
  ⟨type, address, 0, client, .cidr hslash hzero (by decide : stoi "0".toList = some 0) (Nat.zero_le _), h,
    by simp⟩

theorem covers_anyIpv4 (H : AddressSyntax pton) (h : Address pton ip .ipv4 client) :
    Covers pton anyIpv4 ip := by
  obtain ⟨a, ha⟩ := Option.isSome_iff_exists.mp H.zero_ipv4
  have h4 : parseIpv4 pton "0.0.0.0".toList = some a.toList := by
    rw [parseIpv4, show cStr "0.0.0.0".toList = "0.0.0.0".toList from rfl, ha]
    rfl
  exact covers_any (by decide : '/' ∉ "0.0.0.0".toList) (.ipv4 h4) h

/-- What is before the slash of an entry that parses is an address. -/
theorem exists_address_of_parses {front number : Str} (hslash : '/' ∉ front)
    (hparses : Parses pton (front ++ '/' :: number)) :
    ∃ type address, Address pton front type address := by
  obtain ⟨type, address, n, hdenotes⟩ := hparses
  generalize htext : front ++ '/' :: number = text at hdenotes
  cases hdenotes with
  | address hnot _ =>
      rw [← htext] at hnot
      exact absurd (by simp) hnot
  | @cidr front' _ _ _ _ hslash' haddress _ _ =>
      have hfront := congrArg (fun s : Str => s.takeWhile (· ≠ '/')) htext
      simp only [takeWhile_ne_append hslash, takeWhile_ne_append hslash'] at hfront
      exact ⟨type, address, hfront ▸ haddress⟩

/-- The widest network of IPv6, if it parses at all. -/
theorem covers_anyIpv6 (H : AddressSyntax pton) (hparses : Parses pton anyIpv6)
    (h : Address pton ip .ipv6 client) : Covers pton anyIpv6 ip := by
  have hslash : '/' ∉ "::".toList := by decide
  have hnone : parseIpv4 pton "::".toList = none := by
    rw [parseIpv4, show cStr "::".toList = "::".toList from rfl, H.zero_ipv6]
    rfl
  obtain ⟨zero, address, haddress⟩ := exists_address_of_parses hslash hparses
  cases haddress with
  | ipv4 h4 => cases h4.symm.trans hnone
  | ipv6 _ h6 => exact covers_any hslash (.ipv6 hnone h6) h

end

/-- A client that the texts let in is covered by an entry, or the families are mixed up. -/
theorem covered_of_text {pton : InetPton} (H : AddressSyntax pton) {allowlist : List Str} {ip : Str}
    {type : IPType} {client : List Bool} (hip : Address pton ip type client)
    (hparses : ∀ entry ∈ allowlist, Parses pton entry) (hcross : ¬ CrossFamily pton allowlist ip type)
    (htext : ip ∈ allowlist ∨ anyIpv4 ∈ allowlist ∨ anyIpv6 ∈ allowlist) :
    ∃ entry ∈ allowlist, Covers pton entry ip := by
  by_contra hnone
  refine hcross ⟨fun entry hentry hcovers => hnone ⟨entry, hentry, hcovers⟩, ?_⟩
  rcases htext with hspelled | hany4 | hany6
  · exact absurd ⟨ip, hspelled, covers_self H hip (hparses ip hspelled)⟩ hnone
  · -- a client of IPv4 would be covered
    cases type with
    | ipv4 => exact absurd ⟨_, hany4, covers_anyIpv4 H hip⟩ hnone
    | ipv6 => exact .inl ⟨rfl, hany4⟩
  · cases type with
    | ipv4 => exact .inr ⟨rfl, hany6⟩
    | ipv6 => exact absurd ⟨_, hany6, covers_anyIpv6 H (hparses _ hany6) hip⟩ hnone

/-- **When the two checks agree**: no entry that covers the client is overlooked, and none of the
other family lets it in. -/
theorem isIpAllowed_eq_iff (pton : InetPton) (H : AddressSyntax pton) (t : Tunnel)
    (ranges : List CIDRRange) (hranges : fromCidrList pton t.ipAllowlist = some ranges) (ip : Str)
    (type : IPType) (client : List Bool) (hip : Address pton ip type client) :
    t.isIpAllowed ip = isAllowed pton ranges ip ↔
      ¬ Overlooked pton t.ipAllowlist ip ∧ ¬ CrossFamily pton t.ipAllowlist ip type := by
  have hparses := parses_of_fromCidrList hranges
  rw [Bool.eq_iff_iff, isIpAllowed_iff, isAllowed_iff_covers hranges]
  by_cases hnil : t.ipAllowlist = []
  · simp [hnil, Overlooked, CrossFamily]
  · simp only [hnil, false_or]
    constructor
    · intro hiff
      refine ⟨?_, ?_⟩
      · rintro ⟨hcovered, hspelled, hany4, hany6⟩
        have htext := hiff.mpr hcovered
        simp [hspelled, hany4, hany6] at htext
      · rintro ⟨hnone, hother⟩
        have hany : anyIpv4 ∈ t.ipAllowlist ∨ anyIpv6 ∈ t.ipAllowlist :=
          hother.imp And.right And.right
        obtain ⟨entry, hentry, hcovers⟩ := hiff.mp (.inr hany)
        exact hnone entry hentry hcovers
    · rintro ⟨hover, hcross⟩
      constructor
      · exact covered_of_text H hip hparses hcross
      · intro hcovered
        by_contra htext
        simp only [not_or] at htext
        exact hover ⟨hcovered, htext⟩

/-! ## Addresses in full -/

/-- What is read piece by piece has no slash, if no piece has one. -/
theorem slash_not_mem_of_mapM {α : Type} {sep : Char} (hsep : sep ≠ '/') {f : Str → Option α}
    (hf : ∀ l a, f l = some a → '/' ∉ l) {s : Str} {as : List α}
    (h : (s.splitOn sep).mapM f = some as) : '/' ∉ s := by
  intro hslash
  have hjoin : [sep].intercalate (s.splitOn sep) = s := List.intercalate_splitOn sep
  rw [← hjoin] at hslash
  obtain heq | ⟨l, hl, hslash⟩ := mem_of_mem_intercalate hslash
  · exact hsep heq.symm
  · obtain ⟨a, ha⟩ : ∃ a, f l = some a := by
      generalize s.splitOn sep = ls at h hl
      induction ls generalizing as with
      | nil => cases hl
      | cons m ls ih =>
          simp only [List.mapM_cons, Option.bind_eq_bind, Option.bind_eq_some_iff] at h
          obtain ⟨b, hb, bs, hbs, _⟩ := h
          rcases List.mem_cons.mp hl with rfl | hl
          · exact ⟨b, hb⟩
          · exact ih hbs hl
    exact hf l a ha hslash

theorem slash_not_mem_octet (l : Str) (b : UInt8) (h : octetOf l = some b) : '/' ∉ l := by
  simp only [octetOf] at h
  split at h
  · rename_i hdigits
    intro hslash
    exact absurd (List.all_eq_true.mp hdigits.2.1 _ hslash) (by decide)
  · cases h

theorem slash_not_mem_hexByte {l : Str} {b : UInt8} (h : hexByteOf l = some b) : '/' ∉ l := by
  simp only [hexByteOf] at h
  split at h
  · split at h
    · rename_i x y hdigits
      have hslash : '/' ∉ hexDigits := by decide
      have hx : '/' ≠ x := fun heq => hslash (heq ▸ hdigits.1)
      have hy : '/' ≠ y := fun heq => hslash (heq ▸ hdigits.2)
      simp [hx, hy]
    · cases h
  · cases h

theorem slash_not_mem_group (l : Str) (g : UInt8 × UInt8) (h : groupOf l = some g) : '/' ∉ l := by
  simp only [groupOf, Option.bind_eq_bind, Option.bind_eq_some_iff] at h
  obtain ⟨high, hhigh, low, hlow, _⟩ := h
  rw [← List.take_append_drop 2 l, List.mem_append, not_or]
  exact ⟨slash_not_mem_hexByte hhigh, slash_not_mem_hexByte hlow⟩

theorem addressSyntax_full : AddressSyntax fullPton where
  ipv4_plain s a h := by
    obtain ⟨octets, hpieces, _⟩ := Option.bind_eq_some_iff.mp h
    exact slash_not_mem_of_mapM (by decide) slash_not_mem_octet hpieces
  ipv6_plain s a h := by
    obtain ⟨groups, hpieces, _⟩ := Option.bind_eq_some_iff.mp h
    exact slash_not_mem_of_mapM (by decide) slash_not_mem_group hpieces
  zero_ipv4 := by decide +kernel
  zero_ipv6 := by decide +kernel

/-- A tunnel for some clients. -/
def guarded (allowlist : List Str) : Tunnel where
  tunnelId := "api".toList
  protocol := .http
  targetHost := "localhost".toList
  targetPort := 3000
  ipAllowlist := allowlist
  rateLimitRpm := 0
  createdAt := 0
  updatedAt := 0
  status := .active

theorem isIpAllowed_eq_iff_spelled :
    (guarded ["192.168.0.7".toList]).isIpAllowed "192.168.0.7".toList =
      isAllowed fullPton [⟨.ipv4, [192, 168, 0, 7], 32⟩] "192.168.0.7".toList := by
  have h4 : parseIpv4 fullPton "192.168.0.7".toList = some [192, 168, 0, 7] := by decide +kernel
  refine (isIpAllowed_eq_iff fullPton addressSyntax_full _ _ (by decide +kernel) _ _ _ (.ipv4 h4)).mpr
    ⟨?_, ?_⟩
  · rintro ⟨_, hspelled, _⟩
    exact hspelled (by decide)
  · rintro ⟨_, hany⟩
    exact absurd hany (by decide)

/-- A client of the network `10.0.0.0/8` is kept out by one check and let in by the other. -/
theorem isIpAllowed_network :
    ¬ ∀ (pton : InetPton), AddressSyntax pton → ∀ (t : Tunnel) (ranges : List CIDRRange),
      fromCidrList pton t.ipAllowlist = some ranges → ∀ (ip : Str) (type : IPType) (client : List Bool),
        Address pton ip type client → t.isIpAllowed ip = isAllowed pton ranges ip := by
  intro H
  have h4 : parseIpv4 fullPton "10.1.2.3".toList = some [10, 1, 2, 3] := by decide +kernel
  have heq := H fullPton addressSyntax_full (guarded ["10.0.0.0/8".toList]) [⟨.ipv4, [10, 0, 0, 0], 8⟩]
    (by decide +kernel) "10.1.2.3".toList .ipv4 _ (.ipv4 h4)
  have htext : (guarded ["10.0.0.0/8".toList]).isIpAllowed "10.1.2.3".toList = false := by decide
  have hbits : isAllowed fullPton [⟨.ipv4, [10, 0, 0, 0], 8⟩] "10.1.2.3".toList = true := by
    decide +kernel
  rw [htext, hbits] at heq
  cases heq

end Protogate.Security
