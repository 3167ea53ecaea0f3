import CredRegistry.Host.Environment
import CredRegistry.Proofs.Host.Files
import CredRegistry.Proofs.Text.Bytes

/-!
# What a host shows

A path stands for another one if it begins with a tilde (`Host.Expands`), and variables and files
hold the bytes of their texts (`Host.variableText_eq_ok`, `FileSystem.readText_of_text`).
-/

namespace CredRegistry

open CredRegistry.Text

theorem Text.fromUtf8_eq_error_of {bs : List UInt8} (hbytes : ∀ text, bs ≠ utf8 text) :
    ∃ fault, fromUtf8 bs = .error fault := by
  cases hread : fromUtf8 bs with
  | ok text => exact absurd (fromUtf8_eq_ok.mp hread) (hbytes text)
  | error fault => exact ⟨fault, rfl⟩

/-! ## Files -/

namespace FileSystem

variable {fs : FileSystem} {path : String}

theorem readText_of_error {e : FileError} (hread : fs.read path = .error e) :
    fs.readText path = .error e := by
  simp only [readText, hread, bind, Except.bind]

theorem readText_of_text {text : String} (hread : fs.read path = .ok (utf8 text)) :
    fs.readText path = .ok text := by
  simp only [readText, hread, bind, Except.bind, fromUtf8_utf8]

theorem readText_of_notText {bs : List UInt8} (hread : fs.read path = .ok bs)
    (hbytes : ∀ text, bs ≠ utf8 text) : fs.readText path = .error .notText := by
  obtain ⟨fault, hfault⟩ := fromUtf8_eq_error_of hbytes
  simp only [readText, hread, bind, Except.bind, hfault]

end FileSystem

namespace Host

/-! ## Variables -/

variable {h : Host} {name : String}

theorem variableText_eq_ok {text : String} :
    h.variableText name = .ok text ↔ h.variables.lookup name = some (utf8 text) := by
  unfold variableText
  constructor
  · intro htext
    split at htext
    · cases htext
    next bs hset =>
      split at htext
      next hread =>
        cases htext
        rw [hset, fromUtf8_eq_ok.mp hread]
      · cases htext
  · intro hset
    simp only [hset, fromUtf8_utf8]

theorem variableText_of_unset (hunset : h.variables.lookup name = none) :
    h.variableText name = .error .unset := by
  simp only [variableText, hunset]

theorem variableText_of_notText {bs : List UInt8} (hset : h.variables.lookup name = some bs)
    (hbytes : ∀ text, bs ≠ utf8 text) : h.variableText name = .error .notText := by
  obtain ⟨fault, hfault⟩ := fromUtf8_eq_error_of hbytes
  simp only [variableText, hset, hfault]

/-! ## The home directory in a path -/

/-- A path and what it is with the home directory in place of the tilde, if that stands alone or in
front of a slash. -/
inductive Expands (h : Host) : String → String → Prop where
  | home {home : String} (hhome : h.home? = some home) : Expands h "~" home
  | below {home : String} (rest : String) (hhome : h.home? = some home) :
      Expands h ("~/" ++ rest) (home ++ "/" ++ rest)
  | plain {path : String} (halone : path ≠ "~") (hbelow : ∀ rest, path ≠ "~/" ++ rest) :
      Expands h path path
  | homeless {path : String} (hhome : h.home? = none) : Expands h path path

theorem expandHome_homeless (hhome : h.home? = none) (path : String) :
    h.expandHome path = path := by
  simp [expandHome, hhome]

theorem expandHome_alone {home : String} (hhome : h.home? = some home) :
    h.expandHome "~" = home := by
  simp [expandHome, hhome]

theorem expandHome_below {home : String} (hhome : h.home? = some home) (rest : String) :
    h.expandHome ("~/" ++ rest) = home ++ "/" ++ rest := by
  have hlist : ("~/" ++ rest).toList = '~' :: '/' :: rest.toList := String.toList_append
  have htail : String.ofList ('/' :: rest.toList) = "/" ++ rest := by
    rw [← String.toList_inj, String.toList_ofList, String.toList_append]
    rfl
  simp only [expandHome, hlist, hhome, htail, String.append_assoc]

theorem expandHome_plain {path : String} (halone : path ≠ "~")
    (hbelow : ∀ rest, path ≠ "~/" ++ rest) : h.expandHome path = path := by
  unfold expandHome
  split
  next hlist _ => exact absurd (String.toList_inj.mp hlist) halone
  next cs _ hlist _ =>
    refine absurd (String.toList_inj.mp ?_) (hbelow (String.ofList cs))
    rw [hlist, String.toList_append, String.toList_ofList, String.toList_ofList]
    rfl
  next => rfl

theorem expands_iff {path way : String} : h.Expands path way ↔ way = h.expandHome path := by
  constructor
  · intro hexpands
    cases hexpands with
    | home hhome => exact (expandHome_alone hhome).symm
    | below rest hhome => exact (expandHome_below hhome rest).symm
    | plain halone hbelow => exact (expandHome_plain halone hbelow).symm
    | homeless hhome => exact (expandHome_homeless hhome path).symm
  · rintro rfl
    cases hhome : h.home? with
    | none =>
        rw [expandHome_homeless hhome]
        exact .homeless hhome
    | some home =>
        by_cases halone : path = "~"
        · rw [halone, expandHome_alone hhome]
          exact .home hhome
        by_cases hbelow : ∃ rest, path = "~/" ++ rest
        · obtain ⟨rest, rfl⟩ := hbelow
          rw [expandHome_below hhome]
          exact .below rest hhome
        · rw [not_exists] at hbelow
          rw [expandHome_plain halone hbelow]
          exact .plain halone hbelow

/-- A path from the root stands for itself. -/
theorem expands_pathOf {way : List String} (hbelow : way ≠ []) :
    h.Expands (FileSystem.pathOf way) (FileSystem.pathOf way) := by
  obtain ⟨name, way, rfl⟩ := List.exists_cons_of_ne_nil hbelow
  have hlist := FileSystem.toList_pathOf name way
  refine .plain ?_ ?_
  · intro halone
    rw [halone] at hlist
    cases hlist
  · intro rest hrest
    rw [hrest, String.toList_append] at hlist
    cases hlist

/-- A way below the home directory is found behind the tilde. -/
theorem expands_home {home : List String} (hhome : h.home? = some (FileSystem.pathOf home))
    (way : List String) :
    h.Expands ("~" ++ FileSystem.pathOf way) (FileSystem.pathOf (home ++ way)) := by
  cases way with
  | nil =>
      rw [List.append_nil, FileSystem.pathOf, String.append_empty]
      exact .home hhome
  | cons name way =>
      have hpath : "~" ++ FileSystem.pathOf (name :: way)
          = "~/" ++ (name ++ FileSystem.pathOf way) := by
        simp only [FileSystem.pathOf, ← String.append_assoc]
        rfl
      have hway : FileSystem.pathOf (home ++ name :: way)
          = FileSystem.pathOf home ++ "/" ++ (name ++ FileSystem.pathOf way) := by
        simp only [FileSystem.pathOf_append, FileSystem.pathOf, String.append_assoc]
      rw [hpath, hway]
      exact .below _ hhome

end Host

end CredRegistry
