import Protogate.Lib.Assoc
import Protogate.Lib.LastMatch
import Protogate.Lib.Text

/-!
# Certificates for the clients

The manager keeps a certificate for each domain and a default context for clients that
name none.  A hostname is served by its own certificate, or else by a wildcard for the
text from its first dot on.  Key Vault is a function of each call, and `accepts` tells
whether OpenSSL takes a certificate with its key.

A loop over the certificates may visit them in any order, a permutation of the keys.

## Main definitions

* `TlsManager`, `Certificate`, `Context` — the state.
* `loadCertificate`, `reloadCertificate`, `reloadAllCertificates` — the calls that change it.
* `matchCertificate`, `getClientContext`, `hasCertificateForDomain` — the queries.
* `selection` — which certificate a hostname gets, in every order.
-/

namespace Protogate.Security

open Protogate.Lib

/-! ## State -/

/-- Certificate information loaded from Key Vault. -/
structure Certificate where
  certPem : Str
  keyPem : Str
  domain : Str
  keyVaultUri : Str
  deriving DecidableEq, Repr

/-- What `get_certificate` returns, without the version that nobody reads. -/
structure CertificateData where
  certPem : Str
  keyPem : Str
  deriving DecidableEq, Repr

/-- A TLS context: the one that the constructor makes, or one built from a certificate. -/
inductive Context
  | initial
  | built (cert : Certificate)
  deriving DecidableEq, Repr

structure TlsManager where
  keyVaultUri : Str
  certificates : Assoc Str Certificate
  defaultClientContext : Context

/-- Key Vault at the time of a call: the certificate under a secret name, if it can be had. -/
abbrev Vault := Str → Option CertificateData

/-- What follows the first occurrence of `pat`. -/
def afterFirst (pat : Str) : Str → Option Str
  | [] => none
  | c :: s => if hasPrefix pat (c :: s) then some ((c :: s).drop pat.length) else afterFirst pat s

/-- The secret name in the URI of a certificate. -/
def secretNameOf (uri : Str) : Str := (afterFirst "/secrets/".toList uri).getD uri

namespace TlsManager

/-- A manager without certificates. -/
def new (keyVaultUri : Str) : TlsManager := ⟨keyVaultUri, ∅, .initial⟩

section
variable (accepts : Str → Str → Bool)

/-- `create_context`, without a client certificate. -/
def createContext (cert : Certificate) : Option Context :=
  if accepts cert.certPem cert.keyPem then some (.built cert) else none

/-- Store a certificate; the default context is updated if it is the first one. -/
def store (m : TlsManager) (cert : Certificate) (ctx : Context) : TlsManager :=
  let certificates := m.certificates.insert cert.domain cert
  { m with
    certificates
    defaultClientContext := if certificates.keys.length = 1 then ctx else m.defaultClientContext }

def loadCertificate (m : TlsManager) (vault : Vault) (secretName domain : Str) : Bool × TlsManager :=
  match vault secretName with
  | none => (false, m)
  | some data =>
      let cert : Certificate :=
        ⟨data.certPem, data.keyPem, domain, m.keyVaultUri ++ "/secrets/".toList ++ secretName⟩
      match createContext accepts cert with
      | none => (false, m)
      | some ctx => (true, m.store cert ctx)

def reloadCertificate (m : TlsManager) (vault : Vault) (domain : Str) : Bool × TlsManager :=
  match m.certificates.lookup domain with
  | none => (false, m)
  | some cert => m.loadCertificate accepts vault (secretNameOf cert.keyVaultUri) domain

/-- Reload the domains in the order in which the map has them; `vaults` is Key Vault at the time of
each of them.  The number of certificates that could be reloaded is returned. -/
def reloadAllCertificates (m : TlsManager) (vaults : Str → Vault) (order : List Str) :
    ℕ × TlsManager :=
  order.foldl (fun r domain =>
    let answer := r.2.reloadCertificate accepts (vaults domain) domain
    (if answer.1 then r.1 + 1 else r.1, answer.2)) (0, m)

end

/-! ## Queries -/

/-- The hostname is matched by a wildcard domain. -/
def wildcardMatches (hostname domain : Str) : Bool :=
  hasPrefix "*.".toList domain &&
    let suffix := domain.drop 1
    decide (suffix.length ≤ hostname.length) &&
      hostname.drop (hostname.length - suffix.length) == suffix &&
        (hostname.contains '.' && hostname.dropWhile (· ≠ '.') == suffix)

/-- The domain whose certificate serves the hostname; the empty text if there is none. -/
def matchCertificate (m : TlsManager) (order : List Str) (hostname : Str) : Str :=
  if hostname ∈ m.certificates then hostname
  else (order.find? (wildcardMatches hostname)).getD []

/-- The certificate that `get_client_context` builds a context from, if it takes one. -/
def selected (m : TlsManager) (order : List Str) (hostname : Str) : Option Certificate :=
  let matchedDomain := m.matchCertificate order hostname
  if matchedDomain.isEmpty then none else m.certificates.lookup matchedDomain

def getClientContext (accepts : Str → Str → Bool) (m : TlsManager) (order : List Str)
    (sniHostname : Str) : Option Context :=
  if sniHostname.isEmpty then some m.defaultClientContext
  else
    match m.selected order sniHostname with
    | some cert => createContext accepts cert
    | none => some m.defaultClientContext

def hasCertificateForDomain (m : TlsManager) (order : List Str) (domain : Str) : Bool :=
  if domain ∈ m.certificates then true else !(m.matchCertificate order domain).isEmpty

/-! ## Which certificate a hostname gets -/

/-- `*` and the text of the hostname from its first dot on. -/
def wildcardOf (hostname : Str) : Str := '*' :: hostname.dropWhile (· ≠ '.')

/-- Only one domain can match. -/
theorem wildcardMatches_iff {hostname domain : Str} :
    wildcardMatches hostname domain = true ↔ '.' ∈ hostname ∧ domain = wildcardOf hostname := by
  simp only [wildcardMatches, Bool.and_eq_true, decide_eq_true_eq, beq_iff_eq, List.contains_iff_mem]
  constructor
  · rintro ⟨hstar, ⟨_, _⟩, hdot, hrest⟩
    refine ⟨hdot, ?_⟩
    cases domain with
    | nil => simp [hasPrefix] at hstar
    | cons c rest =>
        have hc : c = '*' := by
          simp only [hasPrefix, beq_iff_eq] at hstar
          exact (List.cons.inj hstar).1
        rw [wildcardOf, hc, hrest, List.drop_one, List.tail_cons]
  · rintro ⟨hdot, rfl⟩
    have hsuffix : hostname.dropWhile (· ≠ '.') <:+ hostname := List.dropWhile_suffix _
    refine ⟨?_, ⟨hsuffix.length_le, ?_⟩, hdot, rfl⟩
    · rw [wildcardOf, dropWhile_ne_of_mem hdot]
      rfl
    · exact (List.suffix_iff_eq_drop.mp hsuffix).symm

/-- **Which domain serves a hostname**, in whatever order the certificates are visited. -/
theorem matchCertificate_eq (m : TlsManager) {order : List Str} (horder : order.Perm m.certificates.keys)
    (hostname : Str) : m.matchCertificate order hostname =
      if hostname ∈ m.certificates then hostname
      else if '.' ∈ hostname ∧ wildcardOf hostname ∈ m.certificates then wildcardOf hostname
      else [] := by
  have hmem : ∀ domain, domain ∈ order ↔ domain ∈ m.certificates := fun domain => by
    rw [horder.mem_iff, AList.mem_keys]
  rw [matchCertificate]
  refine if_congr Iff.rfl rfl ?_
  by_cases hwild : '.' ∈ hostname ∧ wildcardOf hostname ∈ m.certificates
  · obtain ⟨hdot, hloaded⟩ := hwild
    have hmatches : wildcardMatches hostname (wildcardOf hostname) = true :=
      wildcardMatches_iff.mpr ⟨hdot, rfl⟩
    have hunique : ∀ domain ∈ order, wildcardMatches hostname domain = true →
        domain = wildcardOf hostname := fun domain _ h => (wildcardMatches_iff.mp h).2
    rw [find?_of_unique ((hmem _).mpr hloaded) hmatches hunique, if_pos ⟨hdot, hloaded⟩]
    rfl
  · have hnone : order.find? (wildcardMatches hostname) = none := by
      refine List.find?_eq_none.mpr fun domain hdomain hmatches => hwild ?_
      obtain ⟨hdot, rfl⟩ := wildcardMatches_iff.mp hmatches
      exact ⟨hdot, (hmem _).mp hdomain⟩
    rw [hnone, if_neg hwild]
    rfl

/-- A domain that is matched is loaded. -/
theorem mem_of_matchCertificate {m : TlsManager} {order : List Str}
    (horder : order.Perm m.certificates.keys) {hostname : Str}
    (h : m.matchCertificate order hostname ≠ []) :
    m.matchCertificate order hostname ∈ m.certificates := by
  rw [matchCertificate_eq m horder] at h ⊢
  split
  · assumption
  · rename_i hexact
    rw [if_neg hexact] at h
    split at h
    · rename_i hwild
      rw [if_pos hwild]
      exact hwild.2
    · exact absurd rfl h

/-- The wildcard is never the empty text, so a hostname that is matched at all has a domain. -/
theorem hasCertificateForDomain_iff {m : TlsManager} {order : List Str} {hostname : Str}
    (hname : hostname ≠ []) : m.hasCertificateForDomain order hostname = true ↔
      m.matchCertificate order hostname ≠ [] := by
  rw [hasCertificateForDomain]
  by_cases hloaded : hostname ∈ m.certificates
  · simp [matchCertificate, hloaded, hname]
  · simp [hloaded]

/-- **Certificate selection** is exact and does not depend on the order of the certificates, and
`has_certificate_for_domain` says whether `get_client_context` takes a certificate that is loaded
rather than the default context. -/
theorem selection (accepts : Str → Str → Bool) (m : TlsManager) (order order' : List Str)
    (horder : order.Perm m.certificates.keys) (horder' : order'.Perm m.certificates.keys)
    (hostname : Str) :
    (m.matchCertificate order hostname =
      if hostname ∈ m.certificates then hostname
      else if '.' ∈ hostname ∧ wildcardOf hostname ∈ m.certificates then wildcardOf hostname
      else []) ∧
    (hostname ≠ [] →
      (m.hasCertificateForDomain order' hostname = true → ∃ cert,
        m.certificates.lookup (m.matchCertificate order hostname) = some cert ∧
          getClientContext accepts m order hostname = createContext accepts cert) ∧
      (m.hasCertificateForDomain order' hostname = false →
        getClientContext accepts m order hostname = some m.defaultClientContext)) := by
  have hsame : m.matchCertificate order' hostname = m.matchCertificate order hostname := by
    rw [matchCertificate_eq m horder', matchCertificate_eq m horder]
  refine ⟨matchCertificate_eq m horder hostname, fun hname => ⟨fun hhas => ?_, fun hhas => ?_⟩⟩
  · rw [hasCertificateForDomain_iff hname, hsame] at hhas
    obtain ⟨cert, hcert⟩ := Option.isSome_iff_exists.mp
      (AList.lookup_isSome.mpr (mem_of_matchCertificate horder hhas))
    refine ⟨cert, hcert, ?_⟩
    simp only [getClientContext, selected, List.isEmpty_iff, hname, hhas, if_false, hcert]
  · have hnone : m.matchCertificate order hostname = [] := by
      by_contra hmatched
      have htrue := (hasCertificateForDomain_iff hname).mpr (hsame ▸ hmatched)
      rw [hhas] at htrue
      cases htrue
    simp only [getClientContext, selected, List.isEmpty_iff, hname, hnone, if_false, if_true]

/-- A wildcard and a certificate of its own, one level deeper. -/
def twoDomains : TlsManager :=
  (store (store (new "https://vault".toList) ⟨[], [], "*.a".toList, []⟩ .initial)
    ⟨[], [], "x.y.a".toList, []⟩ .initial)

theorem selection_twoDomains :
    (twoDomains.matchCertificate ["*.a".toList, "x.y.a".toList] "b.a".toList = "*.a".toList) ∧
      getClientContext (fun _ _ => true) twoDomains ["*.a".toList, "x.y.a".toList] "z.y.a".toList =
        some .initial :=
  ⟨(selection (fun _ _ => true) twoDomains _ ["x.y.a".toList, "*.a".toList] (by decide) (by decide)
      "b.a".toList).1.trans (by decide),
    ((selection (fun _ _ => true) twoDomains _ ["x.y.a".toList, "*.a".toList] (by decide) (by decide)
      "z.y.a".toList).2 (by decide)).2 (by decide)⟩

end TlsManager
end Protogate.Security
