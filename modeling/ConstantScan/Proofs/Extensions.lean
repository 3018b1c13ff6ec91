import ConstantScan.FileFilter
import ConstantScan.Proofs.TextOrder
import Mathlib

/-!
# The extensions of a filter

A filter holds its extensions without the dots in front of them, each once, in the order of their
bytes. How a list spells them, in which order and how often makes no difference.
-/

namespace ConstantScan

/-! ## Dots in front -/

/-- The entry is the text with any number of dots in front. -/
def Dotted (entry text : String) : Prop :=
  ∃ dots, entry.toList = List.replicate dots '.' ++ text.toList

/-- An entry of the list is this text with dots in front or none. The text has no dot in front
itself and is not empty. -/
structure Lists (entries : List String) (text : String) : Prop where
  ne_empty : text ≠ ""
  bare : text.toList.head? ≠ some '.'
  entry : ∃ e ∈ entries, Dotted e text

/-- Each entry of one list stands in the other one, with as many dots in front or not. -/
structure AlikeButDots (entries entries' : List String) : Prop where
  left : ∀ e ∈ entries, ∃ e' ∈ entries', ∃ text, Dotted e text ∧ Dotted e' text
  right : ∀ e' ∈ entries', ∃ e ∈ entries, ∃ text, Dotted e text ∧ Dotted e' text

theorem bareExtension_of_dotted {entry text : String} (h : Dotted entry text) :
    bareExtension entry = bareExtension text := by
  obtain ⟨dots, h⟩ := h
  rw [bareExtension, h, bareExtension,
    List.dropWhile_append_of_pos fun c hc => by simp [List.eq_of_mem_replicate hc]]

theorem bareExtension_of_head {text : String} (h : text.toList.head? ≠ some '.') :
    bareExtension text = text := by
  rw [bareExtension, List.dropWhile_eq_self_iff.2, String.ofList_toList]
  intro hpos
  rw [List.head?_eq_getElem?, List.getElem?_eq_getElem hpos] at h
  simpa using h

theorem head?_bareExtension (entry : String) : (bareExtension entry).toList.head? ≠ some '.' := by
  rw [bareExtension, String.toList_ofList]
  intro h
  have hdot := List.head?_dropWhile_not (· == '.') entry.toList
  rw [h] at hdot
  simp at hdot

theorem dotted_bareExtension (entry : String) : Dotted entry (bareExtension entry) := by
  refine ⟨(entry.toList.takeWhile (· == '.')).length, ?_⟩
  rw [bareExtension, String.toList_ofList, ← List.eq_replicate_of_mem,
    List.takeWhile_append_dropWhile]
  exact fun c hc => by simpa using List.mem_takeWhile_imp hc

/-- What is left of an entry without the dots in front. -/
theorem bareExtension_eq_iff {entry text : String} :
    bareExtension entry = text ↔ Dotted entry text ∧ text.toList.head? ≠ some '.' := by
  constructor
  · rintro rfl
    exact ⟨dotted_bareExtension entry, head?_bareExtension entry⟩
  · rintro ⟨hdotted, hbare⟩
    rw [bareExtension_of_dotted hdotted, bareExtension_of_head hbare]

theorem lists_iff {entries : List String} {text : String} :
    Lists entries text ↔ text ≠ "" ∧ ∃ e ∈ entries, bareExtension e = text := by
  constructor
  · rintro ⟨hne, hbare, e, he, hdotted⟩
    exact ⟨hne, e, he, bareExtension_eq_iff.2 ⟨hdotted, hbare⟩⟩
  · rintro ⟨hne, e, he, htext⟩
    obtain ⟨hdotted, hbare⟩ := bareExtension_eq_iff.1 htext
    exact ⟨hne, hbare, e, he, hdotted⟩

theorem lists_listed {entries listed : List String}
    (h : ∀ text, text ∈ listed ↔ Lists entries text) (text : String) :
    Lists listed text ↔ Lists entries text := by
  rw [lists_iff]
  constructor
  · rintro ⟨-, e, he, rfl⟩
    rw [bareExtension_of_head ((h e).1 he).bare]
    exact (h e).1 he
  · intro hlists
    exact ⟨hlists.ne_empty, text, (h text).2 hlists, bareExtension_of_head hlists.bare⟩

theorem AlikeButDots.lists_iff {entries entries' : List String}
    (h : AlikeButDots entries entries') (text : String) :
    Lists entries text ↔ Lists entries' text := by
  rw [ConstantScan.lists_iff, ConstantScan.lists_iff]
  refine and_congr_right fun _ => ⟨?_, ?_⟩
  · rintro ⟨e, he, rfl⟩
    obtain ⟨e', he', x, hx, hx'⟩ := h.left e he
    exact ⟨e', he', (bareExtension_of_dotted hx').trans (bareExtension_of_dotted hx).symm⟩
  · rintro ⟨e', he', rfl⟩
    obtain ⟨e, he, x, hx, hx'⟩ := h.right e' he'
    exact ⟨e, he, (bareExtension_of_dotted hx).trans (bareExtension_of_dotted hx').symm⟩

/-! ## Sets of names -/

namespace NameSet

/-- Ascending lists without repetition are equal once they have the same names. -/
theorem ext_names {s t : NameSet} (h : ∀ name, name ∈ s.names ↔ name ∈ t.names) : s = t := by
  obtain ⟨ns, hs⟩ := s
  obtain ⟨ms, ht⟩ := t
  have hperm : ns.Perm ms :=
    (List.perm_ext_iff_of_nodup (hs.imp fun hlt => ne_of_lt hlt)
      (ht.imp fun hlt => ne_of_lt hlt)).2 h
  obtain rfl : ns = ms :=
    hperm.eq_of_pairwise (fun _ _ _ _ hlt hgt => absurd hgt (lt_asymm hlt)) hs ht
  rfl

theorem pairwise_bytes (s : NameSet) : (s.names.map Utf8.ofString).Pairwise (· < ·) :=
  s.ascending.map _ fun _ _ hlt => Utf8.ofString_lt_iff.2 hlt

end NameSet

/-! ## Filters -/

namespace FileFilter

theorem mem_normalExtensions {entries : List String} {text : String} :
    text ∈ (normalExtensions entries).names ↔ Lists entries text := by
  rw [normalExtensions, NameSet.mem_ofList, List.mem_filter, List.mem_map, lists_iff, and_comm]
  simp

theorem normalExtensions_eq_iff {entries entries' : List String} :
    normalExtensions entries = normalExtensions entries' ↔
      ∀ text, Lists entries text ↔ Lists entries' text := by
  constructor
  · intro h text
    rw [← mem_normalExtensions, h, mem_normalExtensions]
  · intro h
    refine NameSet.ext_names fun name => ?_
    rw [mem_normalExtensions, mem_normalExtensions, h]

theorem normalExtensions_eq_empty_iff {entries : List String} :
    (normalExtensions entries).names = [] ↔ ∀ e ∈ entries, bareExtension e = "" := by
  rw [List.eq_nil_iff_forall_not_mem]
  simp only [mem_normalExtensions, lists_iff, not_and, not_exists]
  exact ⟨fun h e he => by_contra fun hne => h _ hne e he rfl,
    fun h text hne e he htext => hne (htext ▸ h e he)⟩

theorem ofSettings_eq_ok_iff {settings : ScanSettings} {join : GlobJoiner} {f : FileFilter} :
    ofSettings settings join = .ok f ↔
      (settings.ignorePaths.mapM readGlob = .ok f.ignored ∧ join f.ignored = .ok ()) ∧
      normalExtensions settings.extensions = f.extensions ∧
      NameSet.ofList settings.excludeDirs = f.prunedDirs := by
  obtain ⟨extensions, prunedDirs, ignored⟩ := f
  unfold ofSettings
  cases settings.ignorePaths.mapM readGlob with
  | error e => simp [bind, Except.bind]
  | ok globs =>
    cases hjoin : join globs with
    | error cause =>
      simp only [hjoin, bind, Except.bind, Except.mapError, reduceCtorEq, false_iff]
      rintro ⟨⟨hglobs, hjoined⟩, -⟩
      rw [← Except.ok.inj hglobs, hjoin] at hjoined
      cases hjoined
    | ok _ =>
      simp only [hjoin, bind, Except.bind, Except.mapError, pure, Except.pure, Except.ok.injEq,
        FileFilter.mk.injEq]
      refine ⟨fun ⟨hextensions, hdirs, hglobs⟩ => ⟨⟨hglobs, hglobs ▸ hjoin⟩, hextensions, hdirs⟩,
        fun ⟨⟨hglobs, _⟩, hextensions, hdirs⟩ => ⟨hextensions, hdirs, hglobs⟩⟩

theorem hasExtension_iff {f : FileFilter} {name : Bytes} :
    f.hasExtension name = true ↔
      ∃ stem, stem ≠ [] ∧ ∃ x ∈ f.extensions.names, name = stem ++ 0x2E :: Utf8.ofString x := by
  simp only [hasExtension, List.any_eq_true, Bool.and_eq_true, decide_eq_true_eq,
    List.isSuffixOf_iff_suffix]
  constructor
  · rintro ⟨x, hx, hlength, stem, rfl⟩
    refine ⟨stem, ?_, x, hx, rfl⟩
    rintro rfl
    exact absurd hlength (by simp)
  · rintro ⟨stem, hne, x, hx, rfl⟩
    refine ⟨x, hx, ?_, stem, rfl⟩
    have := List.length_pos_of_ne_nil hne
    rw [List.length_append]
    omega

end FileFilter

/-- Once there are targets and none of them has a blank path, validation comes to the extensions. -/
theorem Config.validate_eq_noExtensions_iff {c : Config} (htargets : c.targets ≠ [])
    (hpaths : ∀ t ∈ c.targets, isBlankText t.path = false) :
    c.validate = .error .noExtensions ↔ ∀ e ∈ c.scanner.extensions, bareExtension e = "" := by
  have hnone : (c.targets.findIdx? fun t => isBlankText t.path) = none :=
    List.findIdx?_eq_none_iff.2 hpaths
  have hall : (c.scanner.extensions.all fun e => (bareExtension e).isEmpty) = true ↔
      ∀ e ∈ c.scanner.extensions, bareExtension e = "" := by
    simp
  rw [validate, if_neg (by simpa using htargets), hnone, ← hall]
  dsimp only
  split
  · simp [*]
  · split_ifs <;> simp [*]

/-- A file is scanned just when its name is a stem that is not empty, a dot and an extension that
the list has. The filter holds these in the order of their bytes and is the filter of what it holds.
Another list makes it just when it lists the same extensions, whatever the order, the repetitions
and the dots in front. Validation, once it comes to the extensions, refuses them just when there are
none. -/
theorem FileFilter.extensions_in_normal_form {settings : ScanSettings} {join : GlobJoiner}
    {f : FileFilter} (h : ofSettings settings join = .ok f) :
    (∀ p : Path, f.isScannable p = true ↔ ∃ stem x, stem ≠ [] ∧ Lists settings.extensions x ∧
      p.fileName? = some (stem ++ 0x2E :: Utf8.ofString x)) ∧
    ((f.extensions.names.map Utf8.ofString).Pairwise (· < ·) ∧
      ∀ x, x ∈ f.extensions.names ↔ Lists settings.extensions x) ∧
    ofSettings { settings with extensions := f.extensions.names } join = .ok f ∧
    (∀ entries, ofSettings { settings with extensions := entries } join = .ok f ↔
      ∀ x, Lists entries x ↔ Lists settings.extensions x) ∧
    (∀ entries, AlikeButDots entries settings.extensions →
      ofSettings { settings with extensions := entries } join = .ok f) ∧
    ∀ c : Config, c.scanner.extensions = settings.extensions → c.targets ≠ [] →
      (∀ t ∈ c.targets, isBlankText t.path = false) →
      (c.validate = .error .noExtensions ↔ f.extensions.names = []) := by
  obtain ⟨hglobs, hextensions, hdirs⟩ := ofSettings_eq_ok_iff.1 h
  have hmem (x : String) : x ∈ f.extensions.names ↔ Lists settings.extensions x := by
    rw [← hextensions, mem_normalExtensions]
  have hother (entries : List String) :
      ofSettings { settings with extensions := entries } join = .ok f ↔
        ∀ x, Lists entries x ↔ Lists settings.extensions x := by
    rw [ofSettings_eq_ok_iff, ← normalExtensions_eq_iff, hextensions]
    exact ⟨fun h => h.2.1, fun h => ⟨hglobs, h, hdirs⟩⟩
  refine ⟨fun p => ?_, ⟨f.extensions.pairwise_bytes, hmem⟩, (hother _).2 (lists_listed hmem),
    hother, fun entries halike => (hother _).2 halike.lists_iff, fun c hsame htargets hpaths => ?_⟩
  · rw [isScannable, Option.any_eq_true]
    simp only [hasExtension_iff, hmem]
    constructor
    · rintro ⟨name, hname, stem, hne, x, hx, rfl⟩
      exact ⟨stem, x, hne, hx, hname⟩
    · rintro ⟨stem, x, hne, hx, hname⟩
      exact ⟨_, hname, stem, hne, x, hx, rfl⟩
  · rw [Config.validate_eq_noExtensions_iff htargets hpaths, hsame, ← hextensions,
      normalExtensions_eq_empty_iff]

/-- An extension of two parts, one with dots in front, which is there twice, and a lone dot. -/
def dottedSettings : ScanSettings := { extensions := [".rs", "d.ts", "..rs", "."] }

theorem FileFilter.extensions_in_normal_form_dotted : ∃ f,
    ofSettings dottedSettings = .ok f ∧ f.isScannable (.ofString "src/lib.d.ts") = true ∧
      ofSettings { dottedSettings with extensions := f.extensions.names } = .ok f ∧
      ofSettings { dottedSettings with extensions := ["...", ".d.ts", "rs"] } = .ok f ∧
      Config.validate { targets := [{ path := "repo" }], scanner := dottedSettings } ≠
        .error .noExtensions := by
  obtain ⟨f, hf⟩ : ∃ f, ofSettings dottedSettings = .ok f := ⟨_, rfl⟩
  obtain ⟨hscannable, ⟨-, hmem⟩, hself, -, halike, hvalidate⟩ := extensions_in_normal_form hf
  have hlists : Lists dottedSettings.extensions "d.ts" :=
    ⟨by decide, by decide, "d.ts", by simp [dottedSettings], 0, rfl⟩
  refine ⟨f, hf, (hscannable _).2 ⟨[0x6C, 0x69, 0x62], "d.ts", by decide, hlists, by cbv⟩, hself,
    halike _ ⟨?_, ?_⟩, fun h => ?_⟩
  · simp only [List.forall_mem_cons]
    exact ⟨⟨".", by simp [dottedSettings], "", ⟨3, rfl⟩, ⟨1, rfl⟩⟩,
      ⟨"d.ts", by simp [dottedSettings], "d.ts", ⟨1, rfl⟩, ⟨0, rfl⟩⟩,
      ⟨".rs", by simp [dottedSettings], "rs", ⟨0, rfl⟩, ⟨1, rfl⟩⟩, by simp⟩
  · simp only [dottedSettings, List.forall_mem_cons]
    exact ⟨⟨"rs", by simp, "rs", ⟨0, rfl⟩, ⟨1, rfl⟩⟩, ⟨".d.ts", by simp, "d.ts", ⟨1, rfl⟩, ⟨0, rfl⟩⟩,
      ⟨"rs", by simp, "rs", ⟨0, rfl⟩, ⟨2, rfl⟩⟩, ⟨"...", by simp, "", ⟨3, rfl⟩, ⟨1, rfl⟩⟩, by simp⟩
  · rw [hvalidate _ rfl (by simp) (by simp; decide)] at h
    have hlisted := (hmem "d.ts").2 hlists
    rw [h] at hlisted
    cases hlisted

end ConstantScan
