/-
# `CertWatch.HostnameRule` — which hostnames the fallback matcher accepts.

`_hostname_matches` works on texts: it lower-cases, strips dots at the end, compares prefixes and cuts at the
first dot.  The rule that it implements is one on labels, and here they are shown to be the same, for every
hostname and every certificate whose alternative names can be read.
-/
import CertWatch.CheckOutcomes
import CertWatch.Lib.Labels

namespace CertWatch

open CertWatch.Lib

/-- The labels of a hostname or of a pattern. -/
def dnsLabels (s : String) : List (List Char) := labels '.' s.toList

/-- The label rule: the pattern is the hostname, or `*` in place of the first of at least two labels. -/
def LabelRule (hostname pattern : String) : Prop := MatchesLabels ['*'] (dnsLabels pattern) (dnsLabels hostname)

instance (hostname pattern : String) : Decidable (LabelRule hostname pattern) := by unfold LabelRule; infer_instance

/-- The names that stand for the certificate: its dNSNames, or its CN when it has none. -/
def candidates (cert : Certificate) (names : Option (List GeneralName)) : List String :=
  if (dnsNames (names.getD [])).isEmpty then (firstAttr cert.subject .commonName).toList
  else dnsNames (names.getD [])

/-- The names that the matcher tries: an empty CN is none. -/
def triedNames (cert : Certificate) (names : Option (List GeneralName)) : List String :=
  if (dnsNames (names.getD [])).isEmpty then (firstAttr cert.subject .commonName).toList.filter (· != "")
  else dnsNames (names.getD [])

/-- `str.lower` keeps the dots of a name apart. -/
def Runtime.KeepsLabels (rt : Runtime) : Prop := Lib.KeepsLabels '.' fun s => (rt.lower (String.ofList s)).toList

/-! ## The matcher -/

/-- **The matcher of one pattern is the label rule.** -/
theorem matchDns_iff {hostname pattern : String} : matchDns hostname pattern = true ↔ LabelRule hostname pattern := by
  unfold LabelRule dnsLabels
  rw [matchesLabels_iff '.' (by decide), String.toList_inj]
  unfold matchDns
  split_ifs with heq
  · simp [heq]
  · simp only [heq, false_or]
    split
    · next suffix hpattern =>
      rw [hpattern]
      split
      · next hnone =>
        have hdot : '.' ∉ hostname.toList := fun h => by simpa using List.dropWhile_eq_nil_iff.mp hnone '.' h
        simp [hdot]
      · next a rest hsome =>
        have hdot : '.' ∈ hostname.toList := by
          by_contra hnot
          rw [List.dropWhile_eq_nil_iff.mpr fun x hx => bne_iff_ne.mpr fun h : x = '.' => hnot (h ▸ hx)] at hsome
          cases hsome
        simp [hdot, afterFirst, hsome, eq_comm]
    · next hpattern =>
      simp only [Bool.false_eq_true, false_iff, not_and]
      exact fun _ h => hpattern _ h

section

variable {rt : Runtime} {hostname : String} {cert : Certificate} {names : Option (List GeneralName)}

/-- The matcher returns, and accepts by the names that it tries. -/
theorem hostnameMatches_eq (hsan : cert.san = .ok names) : hostnameMatches rt (.str hostname) cert = .ok (decide
    (∃ pattern ∈ triedNames cert names, LabelRule (rstripDots (rt.lower hostname)) (rt.lower pattern))) := by
  have hnames : sanExtension cert = .ok names := by
    unfold sanExtension
    rw [hsan]
    rfl
  unfold hostnameMatches triedNames
  rw [hnames]
  simp only [bind, Except.bind, pure, Except.pure, List.isEmpty_map]
  split_ifs with hempty
  · cases hcn : firstAttr cert.subject .commonName with
    | none => simp
    | some cn =>
      by_cases hcn : cn = ""
      · simp [hcn]
      · simp [hcn, ← matchDns_iff]
  · simp only [List.any_map, Function.comp_def, ← matchDns_iff]
    congr 1
    rw [Bool.eq_iff_iff]
    simp

/-! ## The rule -/

/-- A DNS hostname: without the dots at its end, it has no empty label. -/
def IsDnsName (hostname : String) : Prop := ∀ label ∈ dnsLabels (rstripDots hostname), label ≠ []

instance (hostname : String) : Decidable (IsDnsName hostname) := by unfold IsDnsName; infer_instance

/-- Lower-casing leaves something of such a hostname. -/
theorem rstripDots_lower_ne (hlower : rt.KeepsLabels) (hname : IsDnsName hostname) :
    rstripDots (rt.lower hostname) ≠ "" := by
  obtain ⟨label, rest, hlabels⟩ := List.exists_cons_of_ne_nil (labels_ne_nil '.' (rstripDots hostname).toList)
  have hlabel : label ≠ [] := hname label (by rw [dnsLabels, hlabels]; exact List.mem_cons_self)
  obtain ⟨c, hc, hdot⟩ := (exists_label_ne_nil_iff '.').mp ⟨label, hlabels ▸ List.mem_cons_self, hlabel⟩
  have hmem : c ∈ hostname.toList := by
    have hprefix : (rstripDots hostname).toList <+: hostname.toList := by
      rw [rstripDots, String.toList_ofList]
      exact List.rdropWhile_prefix (· == '.') hostname.toList
    exact hprefix.subset hc
  have hlowered := hlower.exists_ne_nil ((exists_label_ne_nil_iff '.').mpr ⟨c, hmem, hdot⟩)
  rw [String.ofList_toList] at hlowered
  intro hempty
  refine (rdropWhile_ne_nil_iff '.').mpr hlowered ?_
  show ((rt.lower hostname).toList.reverse.dropWhile (· == '.')).reverse = []
  rw [← String.toList_ofList (l := ((rt.lower hostname).toList.reverse.dropWhile (· == '.')).reverse)]
  exact congrArg String.toList hempty

/-- An empty CN matches no such hostname, so that it makes no difference whether it is tried. -/
theorem exists_tried_iff (hlower : rt.KeepsLabels) {host : String} (hhost : host ≠ "") :
    (∃ pattern ∈ triedNames cert names, LabelRule host (rt.lower pattern)) ↔
      ∃ pattern ∈ candidates cert names, LabelRule host (rt.lower pattern) := by
  have hempty : ¬ LabelRule host (rt.lower "") := by
    have hnil : rt.lower "" = "" := String.toList_inj.mp hlower.map_nil
    rw [hnil]
    intro h
    -- the one label of the empty pattern would be that of the hostname
    have hlength := h.length_eq
    obtain heq | ⟨htwo, -⟩ := h
    · exact hhost (String.toList_inj.mp (labels_injective '.' heq).symm)
    · simp [dnsLabels, labels] at hlength
      simp [dnsLabels, labels] at htwo
      omega
  unfold triedNames candidates
  split_ifs with hnames
  · constructor
    · rintro ⟨pattern, hpattern, hrule⟩
      exact ⟨pattern, (List.mem_filter.mp hpattern).1, hrule⟩
    · rintro ⟨pattern, hpattern, hrule⟩
      refine ⟨pattern, List.mem_filter.mpr ⟨hpattern, ?_⟩, hrule⟩
      rw [bne_iff_ne]
      rintro rfl
      exact hempty hrule
  · rfl

/-- **The DNS matcher is the label rule**, so that a wildcard stands for one whole label, the first one. -/
theorem hostnameMatches_iff_labelRule (hlower : rt.KeepsLabels) (hname : IsDnsName hostname)
    (hsan : cert.san = .ok names) :
    (∃ verdict, hostnameMatches rt (.str hostname) cert = .ok verdict ∧
      (verdict = true ↔ ∃ pattern ∈ candidates cert names,
        dnsLabels (rt.lower pattern) = dnsLabels (rstripDots (rt.lower hostname)) ∨
        2 ≤ (dnsLabels (rstripDots (rt.lower hostname))).length ∧
          dnsLabels (rt.lower pattern) = ['*'] :: (dnsLabels (rstripDots (rt.lower hostname))).tail)) ∧
    (hostnameMatches rt (.str hostname) cert = .ok true → ∃ pattern ∈ candidates cert names,
      (dnsLabels (rt.lower pattern)).length = (dnsLabels (rstripDots (rt.lower hostname))).length ∧
      (dnsLabels (rt.lower pattern)).tail = (dnsLabels (rstripDots (rt.lower hostname))).tail ∧
      ((dnsLabels (rt.lower pattern)).head? = (dnsLabels (rstripDots (rt.lower hostname))).head? ∨
        (dnsLabels (rt.lower pattern)).head? = some ['*'])) := by
  have heq := @hostnameMatches_eq rt hostname cert names hsan
  have hiff := @exists_tried_iff rt cert names hlower _ (rstripDots_lower_ne hlower hname)
  constructor
  · refine ⟨_, heq, ?_⟩
    rw [decide_eq_true_iff, hiff]
    rfl
  · intro htrue
    rw [heq] at htrue
    obtain ⟨pattern, hpattern, hrule⟩ := hiff.mp (of_decide_eq_true (Except.ok.inj htrue))
    exact ⟨pattern, hpattern, hrule.length_eq, hrule.tail_eq, hrule.head_eq⟩

end

/-! ## A wildcard -/

/-- An interpreter that lower-cases what is ASCII. -/
def asciiRuntime : Runtime where
  __ := literalRuntime
  lower s := String.ofList (s.toList.map Char.toLower)

theorem toLower_eq_dot_iff (c : Char) : c.toLower = '.' ↔ c = '.' := by
  unfold Char.toLower
  split_ifs with hupper
  · constructor
    · intro h
      -- a letter would be moved down past `A`
      have hval : c.val + ('a'.val - 'A'.val) = '.'.val := congrArg Char.val h
      rw [← UInt32.add_sub_cancel c.val ('a'.val - 'A'.val), hval] at hupper
      exact absurd hupper.1 (by decide)
    · rintro rfl
      simp at hupper
  · rfl

theorem asciiRuntime_keepsLabels : asciiRuntime.KeepsLabels := by
  intro name
  simpa [asciiRuntime] using keepsLabels_map '.' toLower_eq_dot_iff name

/-- Letter case and dots at the end make no difference, and the wildcard stands for the first label. -/
theorem hostnameMatches_iff_labelRule_wildcard :
    hostnameMatches asciiRuntime (.str "DB.Example..") (certFor (.dns "*.EXAMPLE") "ca.example" 0) = .ok true := by
  obtain ⟨verdict, hverdict, hiff⟩ := (@hostnameMatches_iff_labelRule _ "DB.Example.."
    (certFor (.dns "*.EXAMPLE") "ca.example" 0) _ asciiRuntime_keepsLabels (by decide) rfl).1
  rw [hverdict, hiff.mpr ⟨"*.EXAMPLE", by decide, by decide⟩]

end CertWatch
