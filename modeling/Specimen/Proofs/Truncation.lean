import Specimen.Proofs.Readers
import Specimen.Proofs.Reading

/-!
# Certificates cut short or continued

A certificate is a single element, so its first octets tell where it ends. If octets are missing
or left over, the encoding is out of order as a whole, and the version is not even looked at.

* `X509.Certificate.ofDer_cut`, `X509.Certificate.ofDer_append`: what is less or more than a
  certificate is malformed.
* `Companion.toDer_cut`: a certificate that was cut short is no companion data.
* `truncation_noticed`: no certificate begins another one, and a companion file that lost its end
  is complained about.
-/

namespace Specimen

open X509 Der

namespace X509.Certificate

variable {d cut more : Octets}

theorem ofDer_eq_malformed_iff :
    ofDer d = .error .malformed ↔ whole readCertificate d = none := by
  rcases ofDer_cases d with ⟨c, hc⟩ | ⟨hc, hw⟩ | ⟨draft, hc, hw, -⟩
  · refine iff_of_false (by simp [hc]) fun hnone => ?_
    simp [ofDer, hnone] at hc
  · exact iff_of_true hc hw
  · exact iff_of_false (by simp [hc]) (by simp [hw])

/-- A certificate is read from all of its octets, and needs every one. -/
theorem exists_takes (hd : (ofDer d).isOk = true) : ∃ draft, Takes readCertificate d draft := by
  obtain ⟨c, hc⟩ := isOk_iff_exists.1 hd
  have hread : whole readCertificate d ≠ none := by
    intro hnone
    rw [ofDer_eq_malformed_iff.2 hnone] at hc
    cases hc
  obtain ⟨draft, hdraft⟩ := Option.ne_none_iff_exists'.1 hread
  exact ⟨draft, (SelfDelimiting.within _ _).takes_of_whole hdraft⟩

theorem ofDer_cut (hd : (ofDer d).isOk = true) (hcut : cut <+: d) (hne : cut ≠ d) :
    ofDer cut = .error .malformed := by
  obtain ⟨draft, ht⟩ := exists_takes hd
  exact ofDer_eq_malformed_iff.2 (ht.whole_cut hcut hne)

theorem ofDer_append (hd : (ofDer d).isOk = true) (hne : more ≠ []) :
    ofDer (d ++ more) = .error .malformed := by
  obtain ⟨draft, ht⟩ := exists_takes hd
  exact ofDer_eq_malformed_iff.2 (ht.whole_append hne)

/-- A certificate has octets. -/
theorem ne_nil_of_isOk (hd : (ofDer d).isOk = true) : d ≠ [] := by
  rintro rfl
  cases hd

/-- No certificate is the beginning of another. -/
theorem eq_of_prefix {e : Octets} (hd : (ofDer d).isOk = true) (he : (ofDer e).isOk = true)
    (hpre : e <+: d) : e = d := by
  by_contra hne
  rw [ofDer_cut hd hpre hne] at he
  cases he

end X509.Certificate

/-- The beginning of a certificate without a mark has no mark either, and is taken for a plain
encoding. -/
theorem Companion.toDer_cut {d cut : Octets} (hd : (Certificate.ofDer d).isOk = true)
    (hm : ¬ Pem.HasMark d) (hcut : cut <+: d) (hne : cut ≠ d) :
    toDer cut = .error .notCertificate := by
  have hplain : Pem.isArmoured cut = false := by
    rw [← Bool.not_eq_true, Pem.isArmoured_iff]
    exact fun hmark => hm (hmark.of_infix hcut.isInfix)
  have hu : unarmour cut = .ok (.der, cut) := by simp [unarmour, hplain]
  have hc : check cut = .error .notCertificate := by
    simp [check, Certificate.ofDer_cut hd hcut hne]
  rw [toDer_of_unarmour hu, hc]
  rfl

/-- **Truncation is noticed.** No certificate begins another one: what is left when octets are cut
off at its end, and what comes about when octets are added, is malformed. A companion file with
the beginning of a certificate in it, all of the certificate excepted, is complained about when it
is read or compared, provided that the certificate has no mark. -/
theorem truncation_noticed {d : Octets} (hd : (Certificate.ofDer d).isOk = true) :
    (∀ e, (Certificate.ofDer e).isOk = true → e <+: d → e = d) ∧
    (∀ cut, cut <+: d → cut ≠ d → Certificate.ofDer cut = .error .malformed) ∧
    (∀ more, more ≠ [] → Certificate.ofDer (d ++ more) = .error .malformed) ∧
    (¬ Pem.HasMark d → ∀ (p : Provider) (w : World) (path : Path) (cut : Octets),
      cut <+: d → cut ≠ d → p.certificatePath = .ok path → w.disk.readFile path = .ok cut →
      (p.companionDer.on w).1 = .error (.companion .notCertificate) ∧
        (p.companionMatches.on w).1 = .error (.companion .notCertificate)) := by
  refine ⟨fun e he hpre => Certificate.eq_of_prefix hd he hpre,
    fun cut hcut hne => Certificate.ofDer_cut hd hcut hne,
    fun more hne => Certificate.ofDer_append hd hne, ?_⟩
  intro hm p w path cut hcut hne hp hr
  have hder : (p.companionDer.on w).1 = .error (.companion .notCertificate) := by
    rw [Provider.companionDer_of_readFile hp hr, Companion.toDer_cut hd hm hcut hne]
    rfl
  refine ⟨hder, ?_⟩
  rw [Provider.companionMatches_on_fst, hder]
  rfl

/-- A certificate without its last octet, and with one too many, and companion files that end
within the length of the certificate, or hold nothing. -/
theorem truncation_noticed_sample :
    (Certificate.ofDer (Sample.certificate (Octets.ofAscii "S"))).isOk = true ∧
    Certificate.ofDer (Sample.certificate (Octets.ofAscii "S")).dropLast = .error .malformed ∧
    Certificate.ofDer (Sample.certificate (Octets.ofAscii "S") ++ [0x00]) = .error .malformed ∧
    (Provider.homeSample.companionDer.on (Provider.worldSample (some [0x30]))).1 =
      .error (.companion .notCertificate) ∧
    (Provider.homeSample.companionMatches.on (Provider.worldSample (some []))).1 =
      .error (.companion .notCertificate) := by
  have hd : (Certificate.ofDer (Sample.certificate (Octets.ofAscii "S"))).isOk = true := by
    decide +kernel
  have hm : ¬ Pem.HasMark (Sample.certificate (Octets.ofAscii "S")) := by decide +kernel
  obtain ⟨-, hcut, hmore, hfile⟩ := truncation_noticed hd
  have hfile := fun cut hpre hne => hfile hm Provider.homeSample (Provider.worldSample (some cut)) _
    cut hpre hne Provider.certificatePath_homeSample (Provider.readFile_worldSample cut)
  refine ⟨hd, hcut _ (List.dropLast_prefix _) (by decide +kernel), hmore _ (by decide), ?_, ?_⟩
  · exact (hfile [0x30] (by decide +kernel) (by decide +kernel)).1
  · exact (hfile [] List.nil_prefix (by decide +kernel)).2

end Specimen
