import Protogate.Lib.Run
import Protogate.Security.TlsManager

/-!
# The default context and renewed certificates

The default context is set whenever a certificate is stored and is the only one then.  A
reload of a sole certificate renews it; once a second domain has been loaded nothing does.
It is never stale exactly as long as no certificate of its domain is replaced by another
one after that.

## Main definitions

* `Load`, `Call`, `perform` — the calls as loads of one certificate after another.
* `Load.brings` — the certificate that a load stores.
* `Renewed`, `NeverStale` — the default context is that of the certificate now stored.
* `KeepsDefault` — what a load must not do.
* `neverStale_iff` — exactly then the default context is never stale.
-/

namespace Protogate.Security

open Protogate.Lib

namespace TlsManager

/-- A load of one certificate, with Key Vault at its time. -/
inductive Load
  | load (secretName domain : Str) (vault : Vault)
  | reload (domain : Str) (vault : Vault)

/-- A call; the order is the one in which a reload of all goes through the domains. -/
inductive Call
  | loadCertificate (secretName domain : Str) (vault : Vault)
  | reloadCertificate (domain : Str) (vault : Vault)
  | reloadAllCertificates (order : List Str) (vaults : Str → Vault)

/-- The loads of a call, between which the lock is free. -/
def Call.loads : Call → List Load
  | .loadCertificate secretName domain vault => [.load secretName domain vault]
  | .reloadCertificate domain vault => [.reload domain vault]
  | .reloadAllCertificates order vaults => order.map fun domain => .reload domain (vaults domain)

section
variable (accepts : Str → Str → Bool)

def perform (m : TlsManager) : Load → TlsManager
  | .load secretName domain vault => (m.loadCertificate accepts vault secretName domain).2
  | .reload domain vault => (m.reloadCertificate accepts vault domain).2

/-- The state after a call. -/
def after (m : TlsManager) : Call → TlsManager
  | .loadCertificate secretName domain vault =>
      (m.loadCertificate accepts vault secretName domain).2
  | .reloadCertificate domain vault => (m.reloadCertificate accepts vault domain).2
  | .reloadAllCertificates order vaults => (m.reloadAllCertificates accepts vaults order).2

/-- The certificate that Key Vault has for a domain, if OpenSSL takes it. -/
def fetched (m : TlsManager) (vault : Vault) (secretName domain : Str) : Option Certificate :=
  (vault secretName).bind fun data =>
    if accepts data.certPem data.keyPem then
      some ⟨data.certPem, data.keyPem, domain, m.keyVaultUri ++ "/secrets/".toList ++ secretName⟩
    else none

/-- The certificate that a load stores, if it succeeds. -/
def Load.brings (m : TlsManager) : Load → Option Certificate
  | .load secretName domain vault => m.fetched accepts vault secretName domain
  | .reload domain vault => (m.certificates.lookup domain).bind fun cert =>
      m.fetched accepts vault (secretNameOf cert.keyVaultUri) domain

/-- The domain of the first load that succeeds. -/
def firstDomain (m : TlsManager) : List Load → Option Str
  | [] => none
  | l :: loads =>
      match l.brings accepts m with
      | some cert => some cert.domain
      | none => firstDomain m loads

end

/-- The default context was built from the certificate now stored for its domain. -/
def Renewed (m : TlsManager) : Prop :=
  ∃ c stored, m.defaultClientContext = .built c ∧ m.certificates.lookup c.domain = some stored ∧
    c.certPem = stored.certPem ∧ c.keyPem = stored.keyPem

/-- It is so as soon as there is a certificate. -/
def NeverStale (m : TlsManager) : Prop := m.certificates = ∅ ∨ m.Renewed

/-- A load for the domain of the default context does not bring another certificate than the one
that it was built from, while there are certificates of several domains. -/
def KeepsDefault (accepts : Str → Str → Bool) (m : TlsManager) (l : Load) : Prop :=
  ∀ cert c, l.brings accepts m = some cert → m.defaultClientContext = .built c →
    cert.domain = c.domain → 2 ≤ m.certificates.keys.length →
      cert.certPem = c.certPem ∧ cert.keyPem = c.keyPem

/-! ## What a load does -/

section
variable {accepts : Str → Str → Bool} {m : TlsManager}

theorem loadCertificate_snd (m : TlsManager) (vault : Vault) (secretName domain : Str) :
    (m.loadCertificate accepts vault secretName domain).2 =
      ((m.fetched accepts vault secretName domain).map fun cert => m.store cert (.built cert)).getD m := by
  rw [loadCertificate, fetched]
  cases vault secretName with
  | none => rfl
  | some data =>
      simp only [createContext, Option.bind_some]
      by_cases haccepts : accepts data.certPem data.keyPem = true
      · simp [haccepts]
      · simp [haccepts]

/-- A load stores what it brings, if it brings anything. -/
theorem perform_eq (m : TlsManager) (l : Load) :
    perform accepts m l =
      ((l.brings accepts m).map fun cert => m.store cert (.built cert)).getD m := by
  cases l with
  | load secretName domain vault => exact loadCertificate_snd m vault secretName domain
  | reload domain vault =>
      rw [perform, reloadCertificate, Load.brings]
      cases m.certificates.lookup domain with
      | none => rfl
      | some cert => exact loadCertificate_snd m vault (secretNameOf cert.keyVaultUri) domain

/-- **A call is the run of its loads.** -/
theorem after_eq_run (m : TlsManager) (call : Call) :
    after accepts m call = run (perform accepts) m call.loads := by
  cases call with
  | loadCertificate | reloadCertificate => rfl
  | reloadAllCertificates order vaults =>
      have hloop : ∀ n : ℕ, (order.foldl (fun r domain =>
          let answer := r.2.reloadCertificate accepts (vaults domain) domain
          (if answer.1 then r.1 + 1 else r.1, answer.2)) (n, m)).2 =
            run (perform accepts) m (order.map fun domain => .reload domain (vaults domain)) := by
        induction order generalizing m with
        | nil => exact fun _ => rfl
        | cons domain order ih => exact fun _ => ih _ _
      exact hloop 0

theorem lookup_store (m : TlsManager) (cert : Certificate) (ctx : Context) (domain : Str) :
    (m.store cert ctx).certificates.lookup domain =
      if domain = cert.domain then some cert else m.certificates.lookup domain :=
  Assoc.lookup_insert_ite m.certificates cert.domain domain cert

theorem length_keys_store (m : TlsManager) (cert : Certificate) (ctx : Context) :
    (m.store cert ctx).certificates.keys.length =
      if cert.domain ∈ m.certificates then m.certificates.keys.length
      else m.certificates.keys.length + 1 :=
  Assoc.length_keys_insert m.certificates cert.domain cert

/-- The default context after a certificate has been stored. -/
theorem defaultClientContext_store (m : TlsManager) (cert : Certificate) (ctx : Context) :
    (m.store cert ctx).defaultClientContext =
      if (m.store cert ctx).certificates.keys.length = 1 then ctx else m.defaultClientContext := rfl

/-! ## The default context -/

/-- There is a certificate of the domain that the default context was built for, and the context was
built; or there is no certificate. -/
def Established (m : TlsManager) : Prop :=
  m.certificates = ∅ ∨ ∃ c, m.defaultClientContext = .built c ∧ c.domain ∈ m.certificates

theorem length_keys_pos {domain : Str} (h : domain ∈ m.certificates) :
    0 < m.certificates.keys.length := List.length_pos_of_mem (AList.mem_keys.mp h)

theorem mem_store_self (m : TlsManager) (cert : Certificate) (ctx : Context) :
    cert.domain ∈ (m.store cert ctx).certificates := AList.mem_insert _ |>.mpr (.inl rfl)

theorem store_of_empty (hempty : m.certificates = ∅) (cert : Certificate) (ctx : Context) :
    (m.store cert ctx).defaultClientContext = ctx := by
  have hnew : cert.domain ∉ m.certificates := by
    rw [hempty]
    exact AList.notMem_empty _
  rw [defaultClientContext_store, length_keys_store, if_neg hnew, hempty]
  rfl

/-- With a certificate of the default domain there, the context is kept or replaced by one for the
same domain. -/
theorem store_of_built {c : Certificate} (hbuilt : m.defaultClientContext = .built c)
    (hmem : c.domain ∈ m.certificates) (cert : Certificate) :
    ((m.store cert (.built cert)).defaultClientContext = .built c ∧
        (cert.domain = c.domain → 2 ≤ m.certificates.keys.length)) ∨
      ((m.store cert (.built cert)).defaultClientContext = .built cert ∧ cert.domain = c.domain ∧
        m.certificates.keys.length = 1) := by
  have hpos := length_keys_pos hmem
  rw [defaultClientContext_store, length_keys_store, hbuilt]
  by_cases hcert : cert.domain ∈ m.certificates
  · rw [if_pos hcert]
    by_cases hone : m.certificates.keys.length = 1
    · right
      rw [if_pos hone]
      obtain ⟨key, hkeys⟩ := List.length_eq_one_iff.mp hone
      rw [AList.mem_keys, hkeys, List.mem_singleton] at hcert hmem
      exact ⟨rfl, hcert.trans hmem.symm, hone⟩
    · left
      rw [if_neg hone]
      exact ⟨rfl, fun _ => by omega⟩
  · left
    rw [if_neg hcert, if_neg (by omega)]
    exact ⟨rfl, fun heq => absurd (heq ▸ hmem) hcert⟩

theorem established_perform (h : m.Established) (l : Load) : (perform accepts m l).Established := by
  rw [perform_eq]
  cases l.brings accepts m with
  | none => exact h
  | some cert =>
      right
      obtain hempty | ⟨c, hbuilt, hmem⟩ := h
      · exact ⟨cert, store_of_empty hempty cert _, mem_store_self m cert _⟩
      · obtain ⟨hkept, _⟩ | ⟨hnew, _, _⟩ := store_of_built hbuilt hmem cert
        · exact ⟨c, hkept, (AList.mem_insert _).mpr (.inr hmem)⟩
        · exact ⟨cert, hnew, mem_store_self m cert _⟩

theorem nonempty_store (m : TlsManager) (cert : Certificate) (ctx : Context) :
    (m.store cert ctx).certificates ≠ ∅ := by
  intro hempty
  have hmem := mem_store_self m cert ctx
  rw [hempty] at hmem
  exact AList.notMem_empty _ hmem

theorem neverStale_iff_of_built {c : Certificate} (hnonempty : m.certificates ≠ ∅)
    (hbuilt : m.defaultClientContext = .built c) : m.NeverStale ↔
      ∃ stored, m.certificates.lookup c.domain = some stored ∧
        c.certPem = stored.certPem ∧ c.keyPem = stored.keyPem := by
  rw [NeverStale, or_iff_right hnonempty, Renewed]
  constructor
  · rintro ⟨c', stored, hbuilt', hstored⟩
    rw [hbuilt] at hbuilt'
    cases hbuilt'
    exact ⟨stored, hstored⟩
  · rintro ⟨stored, hstored⟩
    exact ⟨c, stored, hbuilt, hstored⟩

/-- A certificate for the domain of the default, which stays. -/
theorem neverStale_store_of_eq {cert c : Certificate}
    (hkept : (m.store cert (.built cert)).defaultClientContext = .built c)
    (hdomain : cert.domain = c.domain) : (m.store cert (.built cert)).NeverStale ↔
      cert.certPem = c.certPem ∧ cert.keyPem = c.keyPem := by
  rw [neverStale_iff_of_built (nonempty_store m cert (.built cert)) hkept, lookup_store,
    if_pos hdomain.symm]
  constructor
  · rintro ⟨stored, heq, hcert, hkey⟩
    cases heq
    exact ⟨hcert.symm, hkey.symm⟩
  · rintro ⟨hcert, hkey⟩
    exact ⟨cert, rfl, hcert.symm, hkey.symm⟩

/-- A certificate for another domain leaves the one of the default as it was. -/
theorem neverStale_store_of_ne {cert c : Certificate} (h : m.NeverStale)
    (hbuilt : m.defaultClientContext = .built c) (hmem : c.domain ∈ m.certificates)
    (hkept : (m.store cert (.built cert)).defaultClientContext = .built c)
    (hdomain : cert.domain ≠ c.domain) : (m.store cert (.built cert)).NeverStale := by
  have hbefore : m.certificates ≠ ∅ := by
    intro hempty
    rw [hempty] at hmem
    exact AList.notMem_empty _ hmem
  rw [neverStale_iff_of_built (nonempty_store m cert (.built cert)) hkept, lookup_store,
    if_neg (Ne.symm hdomain)]
  exact (neverStale_iff_of_built hbefore hbuilt).mp h

/-- From a state in which the default context is not stale, a load leaves it so exactly if it keeps
the default. -/
theorem neverStale_perform_iff (hestablished : m.Established) (h : m.NeverStale) (l : Load) :
    (perform accepts m l).NeverStale ↔ KeepsDefault accepts m l := by
  rw [perform_eq, KeepsDefault]
  cases hbrings : l.brings accepts m with
  | none => exact iff_of_true h fun _ _ hnone => by cases hnone
  | some cert =>
      simp only [Option.map_some, Option.getD_some, Option.some.injEq]
      have hstored : (m.store cert (.built cert)).certificates.lookup cert.domain = some cert := by
        rw [lookup_store, if_pos rfl]
      obtain hempty | ⟨c, hbuilt, hmem⟩ := hestablished
      · have hrenewed : (m.store cert (.built cert)).Renewed :=
          ⟨cert, cert, store_of_empty hempty cert _, hstored, rfl, rfl⟩
        refine iff_of_true (.inr hrenewed) fun _ _ _ _ _ hseveral => ?_
        rw [hempty] at hseveral
        simp at hseveral
      · obtain ⟨hkept, hseveral⟩ | ⟨hnew, _, hone⟩ := store_of_built hbuilt hmem cert
        · by_cases hdomain : cert.domain = c.domain
          · rw [neverStale_store_of_eq hkept hdomain]
            constructor
            · rintro hsame cert' c' rfl hc' _ _
              rw [hbuilt] at hc'
              cases hc'
              exact hsame
            · intro hkeeps
              exact hkeeps cert c rfl hbuilt hdomain (hseveral hdomain)
          · refine iff_of_true (neverStale_store_of_ne h hbuilt hmem hkept hdomain) ?_
            rintro cert' c' rfl hc' hdomain' _
            rw [hbuilt] at hc'
            cases hc'
            exact absurd hdomain' hdomain
        · have hrenewed : (m.store cert (.built cert)).Renewed := ⟨cert, cert, hnew, hstored, rfl, rfl⟩
          refine iff_of_true (.inr hrenewed) fun _ _ _ _ _ hseveral => ?_
          omega

/-- The domain of the default context does not change any more. -/
theorem domain_run {c : Certificate} (hbuilt : m.defaultClientContext = .built c)
    (hmem : c.domain ∈ m.certificates) (loads : List Load) {c' : Certificate}
    (h : (run (perform accepts) m loads).defaultClientContext = .built c') :
    c'.domain = c.domain := by
  have hinv : ∃ d, (run (perform accepts) m loads).defaultClientContext = .built d ∧
      d.domain = c.domain ∧ d.domain ∈ (run (perform accepts) m loads).certificates := by
    refine run_invariant (fun m' : TlsManager => ∃ d, m'.defaultClientContext = .built d ∧
      d.domain = c.domain ∧ d.domain ∈ m'.certificates) ?_ ⟨c, hbuilt, rfl, hmem⟩
    rintro m l ⟨d, hd, hdomain, hd'⟩
    rw [perform_eq]
    cases l.brings accepts m with
    | none => exact ⟨d, hd, hdomain, hd'⟩
    | some cert =>
        obtain ⟨hkept, _⟩ | ⟨hnew, hsame, _⟩ := store_of_built hd hd' cert
        · exact ⟨d, hkept, hdomain, (AList.mem_insert _).mpr (.inr hd')⟩
        · exact ⟨cert, hnew, hsame.trans hdomain, mem_store_self m cert _⟩
  obtain ⟨d, hd, hdomain, _⟩ := hinv
  rw [h] at hd
  cases hd
  exact hdomain

/-- It is that of the first load that succeeds. -/
theorem firstDomain_of_built (hempty : m.certificates = ∅) (hinitial : m.defaultClientContext = .initial)
    (loads : List Load) {c : Certificate}
    (h : (run (perform accepts) m loads).defaultClientContext = .built c) :
    firstDomain accepts m loads = some c.domain := by
  induction loads with
  | nil =>
      rw [run_nil, hinitial] at h
      cases h
  | cons l loads ih =>
      rw [run_cons, perform_eq] at h
      rw [firstDomain]
      cases hbrings : l.brings accepts m with
      | none =>
          rw [hbrings] at h
          exact ih h
      | some cert =>
          rw [hbrings] at h
          exact congrArg some (domain_run (store_of_empty hempty cert _) (mem_store_self m cert _) loads h).symm

end

/-- **When the default context is never stale**: exactly while no load for its domain, which is that
of the first certificate loaded, brings another certificate once a second domain has one. -/
theorem neverStale_iff (accepts : Str → Str → Bool) (keyVaultUri : Str) (calls : List Call) :
    let loads := calls.flatMap Call.loads
    (Always (perform accepts) NeverStale (new keyVaultUri) loads ↔
      Along (perform accepts) (KeepsDefault accepts) (new keyVaultUri) loads) ∧
    ∀ c, (run (perform accepts) (new keyVaultUri) loads).defaultClientContext = .built c →
      firstDomain accepts (new keyVaultUri) loads = some c.domain :=
  ⟨always_iff_along Established (fun _ l h => established_perform h l)
      (fun _ l hestablished h => neverStale_perform_iff hestablished h l) (.inl rfl) (.inl rfl),
    fun _ h => firstDomain_of_built rfl rfl _ h⟩

/-- Two domains are loaded, and the certificate of the first one is renewed. -/
def renewal : List Call :=
  [.loadCertificate "a".toList "a.example".toList fun _ => some ⟨"old".toList, "key".toList⟩,
    .loadCertificate "b".toList "b.example".toList fun _ => some ⟨"other".toList, "key".toList⟩,
    .reloadCertificate "a.example".toList fun _ => some ⟨"new".toList, "key".toList⟩]

/-- The reload has stored the new certificate; a client that names no host still gets the old one. -/
theorem not_neverStale :
    let m := run (perform fun _ _ => true) (new "https://vault".toList) (renewal.flatMap Call.loads)
    (m.certificates.lookup "a.example".toList).map Certificate.certPem = some "new".toList ∧
      (∃ c, getClientContext (fun _ _ => true) m ["a.example".toList, "b.example".toList] [] =
        some (.built c) ∧ c.domain = "a.example".toList ∧ c.certPem = "old".toList) ∧
      ¬ ∀ (accepts : Str → Str → Bool) (keyVaultUri : Str) (calls : List Call),
        Always (perform accepts) NeverStale (new keyVaultUri) (calls.flatMap Call.loads) := by
  intro m
  have hbuilt : m.defaultClientContext = .built
      ⟨"old".toList, "key".toList, "a.example".toList, "https://vault/secrets/a".toList⟩ := by decide
  have hlookup : m.certificates.lookup "a.example".toList = some
      ⟨"new".toList, "key".toList, "a.example".toList, "https://vault/secrets/a".toList⟩ := by decide
  refine ⟨by rw [hlookup]; rfl, ⟨_, congrArg some hbuilt, rfl, rfl⟩, fun H => ?_⟩
  have hlast := always_iff_run.mp (H (fun _ _ => true) "https://vault".toList renewal) _
    (List.prefix_refl _)
  obtain hempty | ⟨c, stored, hc, hstored, hcert, _⟩ := hlast
  · have hmem := Assoc.mem_of_lookup hlookup
    rw [hempty] at hmem
    exact AList.notMem_empty _ hmem
  · rw [hbuilt] at hc
    cases hc
    rw [hlookup] at hstored
    cases hstored
    exact absurd hcert (by decide)

end TlsManager
end Protogate.Security
