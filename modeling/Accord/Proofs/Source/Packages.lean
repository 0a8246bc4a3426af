/-
# Packages are consistent

A contract package becomes a directory, an import path and a name. Each part of its dotted name is
reduced to small letters and digits and then made a legal name. Doing this again changes nothing,
so that the name of a package, which is made of the last part of its directory once more, is that
part. Directories consist of elements that stand for themselves, so that a module keeps packages
with different directories apart, whatever its own path looks like.

## Main definitions

* `Source.kept`, `Source.patched`: what is left of a text, and how this is made a legal name;
* `Source.IsPackageName`: the legal names.

## Main results

* `Path.base_join`: the last element of a path;
* `Source.packageName_packageName`: names are made once;
* `Source.isPackageName_packageName`: names are legal;
* `Source.packages_consistent`: directories, names and import paths of packages.
-/

import Accord.Proofs.Output.Targets
import Accord.Proofs.Text.Blanks

namespace Accord

/-! ### The last element of a path -/

namespace Text

variable {sep : UInt8} {t last : Text}

theorem cutLast?_of_not_mem (h : sep ∉ t) : cutLast? sep t = none := by
  induction t with
  | nil => rfl
  | cons b rest ih =>
    rw [List.mem_cons, not_or] at h
    rw [cutLast?, ih h.2]
    exact if_neg (Ne.symm h.1)

theorem cutLast?_append (h : sep ∉ last) (t : Text) :
    cutLast? sep (t ++ sep :: last) = some (t, last) := by
  induction t with
  | nil =>
    rw [List.nil_append, cutLast?, cutLast?_of_not_mem h]
    exact if_pos rfl
  | cons b rest ih => rw [List.cons_append, cutLast?, ih]

theorem dropRightWhile_of_getLast {p : UInt8 → Bool} {b : UInt8} (h : p b = false) (t : Text) :
    dropRightWhile p (t ++ [b]) = t ++ [b] := by
  rw [dropRightWhile, List.reverse_append, List.reverse_singleton, List.singleton_append,
    List.dropWhile_cons_of_neg (by simp [h]), List.reverse_cons, List.reverse_reverse]

end Text

namespace Path

variable {last : Text}

/-- The last element of a path that does not end in a slash. -/
theorem base_join (front : List Text) (hne : last ≠ []) (hslash : slash ∉ last) :
    base (Text.join "/" (front ++ [last])) = last := by
  obtain ⟨start, b, rfl⟩ := (List.eq_nil_or_concat last).resolve_left hne
  rw [List.concat_eq_append] at hslash ⊢
  have hb : b ≠ slash := by
    rintro rfl
    exact hslash (by simp)
  rw [Text.join_append_last, base, if_neg (by simp),
    Text.dropRightWhile_of_getLast (by simp [hb]), ← Text.join_append_last]
  dsimp only
  -- A path of one element has no slash; in any other the last slash comes before the last element.
  by_cases hfront : front = []
  · subst hfront
    rw [List.nil_append, Text.join, if_neg (by simp), Text.cutLast?_of_not_mem hslash]
    rfl
  · rw [Text.join_append_singleton hfront, List.append_assoc, if_neg (by simp)]
    have hcut : Text.cutLast? slash (Text.join "/" front ++ ("/" ++ (start ++ [b]))) =
        some (Text.join "/" front, start ++ [b]) := Text.cutLast?_append hslash _
    rw [hcut]
    rfl

end Path

namespace Source

open Accord.Text (ofChars toLower)

variable {t : Text} {c : Char} {cs : List Char}

/-! ### Small letters and digits -/

/-- Whether a character is a small ASCII letter or an ASCII digit. -/
def isNameChar (c : Char) : Bool := c.isLower || c.isDigit

/-- What is left of a text in a package name. -/
def kept (t : Text) : List Char := (t.chars.map toLower).filter isPackageChar

/-- How the characters of a package name are made a legal name. -/
def patched : List Char → List Char
  | [] => ['a', 'p', 'i']
  | c :: cs =>
    if c.isDigit then 'p' :: c :: cs
    else if keywords.contains (ofChars (c :: cs)) then c :: cs ++ ['_']
    else c :: cs

/-- A small letter or digit is kept as it is. -/
theorem isPackageChar_of_isNameChar (h : isNameChar c = true) :
    isPackageChar c = true ∧ toLower c = c ∧ Text.isDigit c = c.isDigit := by
  have table : ∀ code : Fin 127, isNameChar (Char.ofNat code) = true →
      isPackageChar (Char.ofNat code) = true ∧ toLower (Char.ofNat code) = Char.ofNat code ∧
        Text.isDigit (Char.ofNat code) = (Char.ofNat code).isDigit := by
    decide +kernel
  have hcode : c.toNat < 127 := by
    have hlower : c.isLower = (decide (c.val ≥ 'a'.val) && decide (c.val ≤ 'z'.val)) := rfl
    simp only [isNameChar, hlower, Char.isDigit, Bool.or_eq_true, Bool.and_eq_true,
      decide_eq_true_eq, ge_iff_le, UInt32.le_iff_toNat_le] at h
    have hval : c.toNat = c.val.toNat := rfl
    have hz : 'z'.val.toNat = 122 := rfl
    have hnine : '9'.val.toNat = 57 := rfl
    omega
  have hrow := table ⟨c.toNat, hcode⟩
  rw [Char.ofNat_toNat] at hrow
  exact hrow h

/-- Only small letters and digits are left of a text. -/
theorem isNameChar_of_mem_kept (h : c ∈ kept t) : isNameChar c = true := by
  have table : ∀ code : Fin 127, isPackageChar (Char.ofNat code) = true →
      isNameChar (Char.ofNat code) = true ∨ Text.isUpper (Char.ofNat code) = true ∧
        toLower (Char.ofNat code) ≠ Char.ofNat code := by
    decide +kernel
  obtain ⟨hmem, hpackage⟩ := List.mem_filter.mp h
  obtain ⟨d, -, rfl⟩ := List.mem_map.mp hmem
  have hcode : (toLower d).toNat < 127 := by
    simp only [isPackageChar, Bool.and_eq_true, decide_eq_true_eq] at hpackage
    exact hpackage.1
  have hrow := table ⟨(toLower d).toNat, hcode⟩
  rw [Char.ofNat_toNat] at hrow
  -- A lower case in upper case would be that of a letter without a lower case.
  refine (hrow hpackage).resolve_right ?_
  rintro ⟨hupper, hne⟩
  apply hne
  rw [Text.toLower_eq_of_isUpper hupper]
  exact Text.toLower_eq_of_isUpper hupper

/-- Nothing is taken from small letters and digits. -/
theorem kept_ofChars (h : ∀ c ∈ cs, isNameChar c = true) : kept (ofChars cs) = cs := by
  have hmap : cs.map toLower = cs.map id :=
    List.map_congr_left fun c hc => (isPackageChar_of_isNameChar (h c hc)).2.1
  rw [kept, Text.chars_ofChars, hmap, List.map_id]
  exact List.filter_eq_self.mpr fun c hc => (isPackageChar_of_isNameChar (h c hc)).1

/-- An underscore is left out. -/
theorem kept_ofChars_underscore (h : ∀ c ∈ cs, isNameChar c = true) :
    kept (ofChars (cs ++ ['_'])) = cs := by
  have hunderscore : [toLower '_'].filter isPackageChar = [] := by decide +kernel
  have hkept := kept_ofChars h
  rw [kept, Text.chars_ofChars] at hkept ⊢
  rw [List.map_append, List.filter_append, hkept, List.map_singleton, hunderscore, List.append_nil]

/-! ### Names of packages -/

/-- The name of a package is made of what is left of a text. -/
theorem packageName_eq (t : Text) : packageName t = ofChars (patched (kept t)) := by
  unfold packageName
  rw [Text.chars_lower, ← kept]
  have hchars : ∀ c ∈ kept t, isNameChar c = true := fun c => isNameChar_of_mem_kept
  cases hkept : kept t with
  | nil => rfl
  | cons c cs =>
    rw [hkept] at hchars
    have hdigit := (isPackageChar_of_isNameChar (hchars c List.mem_cons_self)).2.2
    dsimp only
    rw [hdigit, patched]
    split
    · rfl
    · split
      · exact (Text.ofChars_append (c :: cs) ['_']).symm
      · rfl

/-- A name in which there is a digit is no keyword. -/
theorem not_mem_keywords_of_isDigit (h : c ∈ cs) (hdigit : c.isDigit = true) :
    ofChars cs ∉ keywords := by
  have table : (keywords.all fun k => k.chars.all fun c => !c.isDigit) = true := by decide +kernel
  intro hmem
  have hrow := List.all_eq_true.mp table _ hmem
  rw [Text.chars_ofChars] at hrow
  simpa [hdigit] using List.all_eq_true.mp hrow c h

/-- A name that ends in an underscore is no keyword. -/
theorem not_mem_keywords_underscore (cs : List Char) : ofChars (cs ++ ['_']) ∉ keywords := by
  intro hmem
  have hreserved : isReserved (ofChars (cs ++ ['_'])) = true := by
    rw [isReserved, List.contains_iff_mem.mpr hmem, Bool.true_or]
  refine underscore_not_mem_of_isReserved hreserved ?_
  rw [Text.ofChars_append]
  exact List.mem_append_right _ (by decide)

/-- A legal name is made once: it is its own name. -/
theorem patched_kept_patched (h : ∀ c ∈ cs, isNameChar c = true) :
    patched (kept (ofChars (patched cs))) = patched cs := by
  cases cs with
  | nil => decide +kernel
  | cons c cs =>
    rw [patched]
    split
    case isTrue hdigit =>
      -- The letter in front is no digit, and keywords have no digits.
      have hp : ∀ d ∈ 'p' :: c :: cs, isNameChar d = true :=
        List.forall_mem_cons.mpr ⟨by decide, h⟩
      have hkeyword : ¬ keywords.contains (ofChars ('p' :: c :: cs)) = true := by
        rw [List.contains_iff_mem]
        exact not_mem_keywords_of_isDigit (by simp) hdigit
      rw [kept_ofChars hp, patched, if_neg (by decide), if_neg hkeyword]
    case isFalse hletter =>
      split
      case isTrue hkeyword =>
        rw [kept_ofChars_underscore h, patched, if_neg hletter, if_pos hkeyword]
      case isFalse hkeyword =>
        rw [kept_ofChars h, patched, if_neg hletter, if_neg hkeyword]

theorem packageName_packageName (t : Text) : packageName (packageName t) = packageName t := by
  rw [packageName_eq (packageName t), packageName_eq t,
    patched_kept_patched fun c => isNameChar_of_mem_kept]

/-- The legal names: a small letter, then small letters and digits, then at most one underscore, but
no keyword. -/
structure IsPackageName (t : Text) : Prop where
  spelled : ∃ (c : Char) (cs ending : List Char), t = ofChars (c :: cs ++ ending) ∧
    c.isLower = true ∧ (∀ d ∈ cs, d.isLower = true ∨ d.isDigit = true) ∧
    (ending = [] ∨ ending = ['_'])
  not_keyword : t ∉ keywords

/-- Every name of a package is legal. -/
theorem isPackageName_packageName (t : Text) : IsPackageName (packageName t) := by
  have hchars : ∀ c ∈ kept t, c.isLower = true ∨ c.isDigit = true := fun c hc => by
    simpa [isNameChar] using isNameChar_of_mem_kept hc
  rw [packageName_eq]
  cases hkept : kept t with
  | nil => exact ⟨⟨'a', ['p', 'i'], [], rfl, by decide, by simp, .inl rfl⟩, by decide +kernel⟩
  | cons c cs =>
    rw [hkept] at hchars
    obtain ⟨hc, hcs⟩ := List.forall_mem_cons.mp hchars
    rw [patched]
    split
    case isTrue hdigit =>
      refine ⟨⟨'p', c :: cs, [], by simp, by decide, hchars, .inl rfl⟩, ?_⟩
      exact not_mem_keywords_of_isDigit (by simp) hdigit
    case isFalse hletter =>
      have hlower := hc.resolve_right hletter
      split
      case isTrue =>
        exact ⟨⟨c, cs, ['_'], rfl, hlower, hcs, .inr rfl⟩, not_mem_keywords_underscore (c :: cs)⟩
      case isFalse hkeyword =>
        refine ⟨⟨c, cs, [], by simp, hlower, hcs, .inl rfl⟩, fun hmem => ?_⟩
        exact hkeyword (List.contains_iff_mem.mpr hmem)

/-! ### Directories -/

/-- The elements of the directory of a package. -/
def elements (leading package : Text) : List Text :=
  (Text.split (Text.byte '.') (strip leading package)).map packageName

theorem elements_ne_nil (leading package : Text) : elements leading package ≠ [] := by
  simp [elements, Text.split_ne_nil]

theorem element_of_mem_elements {leading package e : Text} (h : e ∈ elements leading package) :
    Path.Element e := by
  obtain ⟨part, -, rfl⟩ := List.mem_map.mp h
  obtain ⟨hplain, hne⟩ := plain_packageName part
  exact .of_plain hplain hne

theorem split_packageDir (leading package : Text) :
    Text.split Path.slash (packageDir leading package) = elements leading package :=
  Path.split_join_elements (elements_ne_nil leading package) fun _ => element_of_mem_elements

/-- The last element of a directory is the name of its package. -/
theorem packageName_base_packageDir (leading package : Text) :
    (elements leading package).getLast? =
      some (packageName (Path.base (packageDir leading package))) := by
  obtain ⟨front, part, hparts⟩ :=
    (List.eq_nil_or_concat (Text.split (Text.byte '.') (strip leading package))).resolve_left
      (Text.split_ne_nil _ _)
  have helements : elements leading package = front.map packageName ++ [packageName part] := by
    rw [elements, hparts, List.concat_eq_append, List.map_append, List.map_singleton]
  have hlast : Path.Element (packageName part) :=
    element_of_mem_elements (helements ▸ List.mem_append_right _ List.mem_cons_self)
  have hdir : packageDir leading package =
      Text.join "/" (front.map packageName ++ [packageName part]) := by
    rw [← helements]
    rfl
  rw [hdir, Path.base_join _ hlast.ne_nil hlast.slash_not_mem, packageName_packageName, helements,
    List.getLast?_concat]

end Source

/-- Below any path, paths of elements that stand for themselves stay apart. -/
theorem Path.join_below_inj {t : Text} {es fs : List Text} (hes : es ≠ [])
    (hes' : ∀ e ∈ es, Path.Element e) (hfs : fs ≠ []) (hfs' : ∀ e ∈ fs, Path.Element e) :
    Path.join [t, Text.join "/" es] = Path.join [t, Text.join "/" fs] ↔
      Text.join "/" es = Text.join "/" fs := by
  refine ⟨fun h => ?_, fun h => by rw [h]⟩
  -- An empty path takes no part in joining, and any other leaves one text in front of both.
  by_cases ht : t = []
  · subst ht
    simpa [Path.join, Path.join_ne_nil hes hes', Path.join_ne_nil hfs hfs', Text.join,
      Path.clean_join hes hes', Path.clean_join hfs hfs'] using h
  · obtain ⟨front, -, hfront⟩ := Path.exists_front ht
    rw [Path.join_pair ht (Path.join_ne_nil hes hes'),
      Path.join_pair ht (Path.join_ne_nil hfs hfs'), hfront es hes hes', hfront fs hfs hfs'] at h
    exact List.append_cancel_left h

namespace Source

/-- **Packages are consistent.** Let every contract package have a package of its own below a
module, and let a leading part of its dotted name be dropped. The elements of the directory of a
package are legal names, and the last of them is the name of the package. Two packages have the
same import path exactly if they have the same directory, and then they have the same name. -/
theorem packages_consistent (modulePrefix stripPrefix : Text) :
    let l : PackageLayout := { modulePrefix, stripPrefix }
    (∀ package, ∀ e ∈ Text.split Path.slash (packageDir stripPrefix package), IsPackageName e) ∧
    (∀ package, (l.package package).dir = packageDir stripPrefix package ∧
      (Text.split Path.slash (l.package package).dir).getLast? =
        some (l.package package).name) ∧
    ∀ p q, ((l.package p).path = (l.package q).path ↔ (l.package p).dir = (l.package q).dir) ∧
      ((l.package p).dir = (l.package q).dir → (l.package p).name = (l.package q).name) := by
  intro l
  have hpackage (package : Text) : l.package package =
      ⟨Path.join [modulePrefix, packageDir stripPrefix package], packageDir stripPrefix package,
        packageName (Path.base (packageDir stripPrefix package))⟩ := rfl
  refine ⟨fun package e he => ?_, fun package => ⟨rfl, ?_⟩, fun p q => ⟨?_, fun hdir => ?_⟩⟩
  · rw [split_packageDir] at he
    obtain ⟨part, -, rfl⟩ := List.mem_map.mp he
    exact isPackageName_packageName part
  · rw [hpackage, split_packageDir]
    exact packageName_base_packageDir stripPrefix package
  · exact Path.join_below_inj (elements_ne_nil _ _) (fun _ => element_of_mem_elements)
      (elements_ne_nil _ _) fun _ => element_of_mem_elements
  · rw [hpackage, hpackage] at hdir ⊢
    dsimp only at hdir ⊢
    rw [hdir]

/-- Parts that begin with a digit, are a keyword or hold other characters, in two spellings of one
package. -/
theorem packages_consistent_keyword :
    let l : PackageLayout := { modulePrefix := "example.com/out", stripPrefix := "com.example" }
    (l.package "com.example.2D.my-api.Type").dir = "p2d/myapi/type_" ∧ IsPackageName "type_" ∧
      (l.package "com.example.2D.my-api.Type").name = "type_" ∧
      (l.package "com.example.2D.my-api.Type").path = (l.package "com.example.2d.myapi.type").path := by
  intro l
  have hdir : packageDir "com.example" "com.example.2D.my-api.Type" = "p2d/myapi/type_" := by
    decide +kernel
  obtain ⟨hlegal, hname, hsame⟩ := packages_consistent "example.com/out" "com.example"
  refine ⟨hdir, hlegal "com.example.2D.my-api.Type" _ ?_, ?_, (hsame _ _).1.mpr ?_⟩
  · rw [hdir]
    decide
  · obtain ⟨hpackage, hlast⟩ := hname "com.example.2D.my-api.Type"
    rw [hpackage, hdir] at hlast
    exact (Option.some.inj hlast).symm
  · decide +kernel

end Source

end Accord
