import ConstantScan.Proofs.Path
import ConstantScan.Proofs.Utf8
import ConstantScan.Target

/-!
# Where the path of a target leads

The form of a target's path says where its root is: at home, below home, where an absolute path is,
or below the base directory. What comes after `~/` stays below home unless it is an absolute path
itself.
-/

namespace ConstantScan

namespace Path

/-- By its components the path is at the directory or below it. -/
def LiesIn (p dir : Path) : Prop := dir.components <+: p.components

theorem liesIn_join {p q : Path} (hp : p.bytes ≠ []) (hq : q.isAbsolute = false) :
    (p.join q).LiesIn p := by
  rw [LiesIn, components_join hp hq]
  exact List.prefix_append _ _

/-- An absolute path starts anew, so it has to lie there by itself. -/
theorem liesIn_join_iff {p q : Path} (hp : p.bytes ≠ []) :
    (p.join q).LiesIn p ↔ q.isAbsolute = false ∨ q.LiesIn p := by
  cases hq : q.isAbsolute with
  | false => simp [liesIn_join hp hq]
  | true => simp [join_of_isAbsolute hq]

theorem bytes_ne_nil_of_isAbsolute {p : Path} (h : p.isAbsolute = true) : p.bytes ≠ [] := by
  intro hnil
  simp [isAbsolute, hnil] at h

theorem isAbsolute_join {p : Path} (h : p.isAbsolute = true) (q : Path) :
    (p.join q).isAbsolute = true := by
  have hne := bytes_ne_nil_of_isAbsolute h
  unfold join
  split
  · assumption
  · split <;> exact (congrArg (· == some slash) (List.head?_append_of_ne_nil _ hne)).trans h

end Path

/-! ## The forms of a path -/

/-- The path starts from the home directory. -/
inductive StartsAtHome : String → Prop
  | home : StartsAtHome "~"
  | below (rest : String) : StartsAtHome ("~/" ++ rest)

theorem StartsAtHome.not_isAbsolute {path : String} (h : StartsAtHome path) :
    (Path.ofString path).isAbsolute = false := by
  cases h with
  | home => cbv
  | below rest =>
    have hstart : Utf8.ofString "~/" = [0x7E, Path.slash] := by cbv
    rw [Path.ofString, Utf8.ofString_append, hstart]
    rfl

theorem expandHome_below (rest : String) (home : Option Path) :
    expandHome ("~/" ++ rest) home = home.map (·.join (.ofString rest)) := by
  have hchars : ("~/" ++ rest).toList = '~' :: '/' :: rest.toList := by
    rw [String.toList_append]
    rfl
  simp only [expandHome, hchars, String.ofList_toList]

theorem expandHome_of_not_startsAtHome {path : String} (h : ¬ StartsAtHome path)
    (home : Option Path) : expandHome path home = some (.ofString path) := by
  unfold expandHome
  split
  · next hchars =>
    have hpath : path = "~" := String.toList_inj.1 hchars
    exact absurd (hpath ▸ .home) h
  · next rest hchars =>
    have hpath : path = "~/" ++ String.ofList rest := by
      apply String.toList_inj.1
      simp only [hchars, String.toList_append, String.toList_ofList]
      rfl
    exact absurd (hpath ▸ .below _) h
  · rfl

/-! ## Roots -/

theorem resolveRoot_home (base : Option Path) {home : Path} (h : home.isAbsolute = true) :
    resolveRoot "~" base (some home) = some home := by
  have hexpand : expandHome "~" (some home) = some home := rfl
  simp [resolveRoot, hexpand, h]

theorem resolveRoot_below (rest : String) (base : Option Path) {home : Path}
    (h : home.isAbsolute = true) :
    resolveRoot ("~/" ++ rest) base (some home) = some (home.join (.ofString rest)) := by
  simp [resolveRoot, expandHome_below, Path.isAbsolute_join h]

theorem resolveRoot_of_isAbsolute {path : String} (h : (Path.ofString path).isAbsolute = true)
    (base home : Option Path) : resolveRoot path base home = some (.ofString path) := by
  have hform : ¬ StartsAtHome path := fun hstarts =>
    Bool.false_ne_true (hstarts.not_isAbsolute.symm.trans h)
  simp [resolveRoot, expandHome_of_not_startsAtHome hform, h]

theorem resolveRoot_of_relative {path : String} (hform : ¬ StartsAtHome path)
    (h : (Path.ofString path).isAbsolute = false) (base home : Option Path) :
    resolveRoot path base home = base.map (·.join (.ofString path)) := by
  simp [resolveRoot, expandHome_of_not_startsAtHome hform, h]

/-- `~` is the home directory, an absolute path stays, and all else but `~/` goes on from the base.
A path after `~/` goes on from home whatever the base is, and leaves home just if it is absolute and
does not lie there by itself. -/
theorem resolveRoot_by_form (base : Option Path) {home : Path} (hhome : home.isAbsolute = true) :
    resolveRoot "~" base (some home) = some home ∧
    (∀ rest, resolveRoot ("~/" ++ rest) base (some home) = some (home.join (.ofString rest)) ∧
      ((home.join (.ofString rest)).LiesIn home ↔
        (Path.ofString rest).isAbsolute = false ∨ (Path.ofString rest).LiesIn home)) ∧
    (∀ path, (Path.ofString path).isAbsolute = true → ∀ home',
      resolveRoot path base home' = some (.ofString path)) ∧
    ∀ path, ¬ StartsAtHome path → (Path.ofString path).isAbsolute = false → ∀ home',
      resolveRoot path base home' = base.map (·.join (.ofString path)) := by
  refine ⟨resolveRoot_home base hhome, fun rest => ?_, ?_, ?_⟩
  · exact ⟨resolveRoot_below rest base hhome,
      Path.liesIn_join_iff (Path.bytes_ne_nil_of_isAbsolute hhome)⟩
  · exact fun path h home' => resolveRoot_of_isAbsolute h base home'
  · exact fun path hform h home' => resolveRoot_of_relative hform h base home'

theorem resolveRoot_by_form_nested :
    ∃ root, resolveRoot "~/src//repo" (some (.ofString "/work")) (some (.ofString "/home/dev")) =
      some root ∧ root.LiesIn (.ofString "/home/dev") := by
  have hhome : (Path.ofString "/home/dev").isAbsolute = true := by cbv
  obtain ⟨-, hbelow, -⟩ := resolveRoot_by_form (some (.ofString "/work")) hhome
  obtain ⟨hroot, hlies⟩ := hbelow "src//repo"
  exact ⟨_, hroot, hlies.2 (.inl (by cbv))⟩

/-- A second slash after the tilde leads out of the home directory. -/
theorem not_resolveRoot_below_home :
    ¬ ∀ (rest : String) (base : Option Path) (home root : Path), home.isAbsolute = true →
      resolveRoot ("~/" ++ rest) base (some home) = some root → root.LiesIn home := by
  intro h
  have hroot : resolveRoot ("~/" ++ "/x") none (some (.ofString "/home/dev")) =
      some (.ofString "/x") := by cbv
  have hlies := h "/x" none (.ofString "/home/dev") (.ofString "/x") (by cbv) hroot
  have hhome : (Path.ofString "/home/dev").components =
      [.root, .name (Utf8.encode "home".toList), .name (Utf8.encode "dev".toList)] := by cbv
  have hx : (Path.ofString "/x").components = [.root, .name (Utf8.encode "x".toList)] := by cbv
  rw [Path.LiesIn, hhome, hx] at hlies
  exact absurd hlies (by decide)

end ConstantScan
