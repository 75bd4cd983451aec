import Mathlib.Data.List.Basic
import Mathlib.Data.List.TakeWhile
import WebCompat.DocumentKind
import WebCompat.Proofs.Distinct
import WebCompat.Proofs.Text.Ascii
import WebCompat.Proofs.Text.Split

/-!
Kinds of documents by their paths. The kind hangs on the last component alone, and of that only on
what stands behind its last dot; where a path has no such component or the component no such dot,
the kind is told to be another one.

Owns: the last component of a path, whatever stands before it and behind it; the extension of a
name; and the kind of every path by the two.
-/

namespace WebCompat.DocumentKind

open Text (splitAt)

/-! ## Components

A slash is the byte 47 and a dot the byte 46. -/

/-- The parts of a path that name something: those that are neither empty nor a single dot. -/
def components (path : List UInt8) : List (List UInt8) :=
  (splitAt 47 path).filter fun part => part != [] && part != [46]

theorem components_append_cons (front back : List UInt8) :
    components (front ++ 47 :: back) = components front ++ components back := by
  rw [components, Text.splitAt_append_cons, List.filter_append]
  rfl

/-- Whether a part names something. -/
structure IsComponent (name : List UInt8) : Prop where
  notEmpty : name ≠ []
  noSlash : 47 ∉ name
  notDot : name ≠ [46]

theorem components_of_isComponent {name : List UInt8} (isComponent : IsComponent name) :
    components name = [name] := by
  rw [components, Text.splitAt_of_not_mem isComponent.noSlash]
  simp [isComponent.notEmpty, isComponent.notDot]

/-- What may stand behind the last component of a path: slashes, each with a dot behind it or
without. -/
inductive IsTrail : List UInt8 → Prop where
  | nil : IsTrail []
  | slash {trail} : IsTrail trail → IsTrail (47 :: trail)
  | slashDot {trail} : IsTrail trail → IsTrail (47 :: 46 :: trail)

theorem IsTrail.append {trail other : List UInt8} (isTrail : IsTrail trail)
    (isOther : IsTrail other) : IsTrail (trail ++ other) := by
  induction isTrail with
  | nil => exact isOther
  | slash _ inductionHypothesis => exact inductionHypothesis.slash
  | slashDot _ inductionHypothesis => exact inductionHypothesis.slashDot

/-- A trail names nothing, whatever it stands behind. -/
theorem components_append_trail {trail : List UInt8} (isTrail : IsTrail trail)
    (path : List UInt8) : components (path ++ trail) = components path := by
  induction isTrail generalizing path with
  | nil => rw [List.append_nil]
  | slash _ inductionHypothesis =>
      have alone := inductionHypothesis []
      rw [List.nil_append] at alone
      rw [components_append_cons, alone]
      exact List.append_nil _
  | slashDot _ inductionHypothesis =>
      have alone := inductionHypothesis [46]
      rw [components_append_cons, ← List.singleton_append, alone]
      exact List.append_nil _

/-- Whether a path ends in a component: at its front or behind a slash, and with no more than a
trail behind it. -/
def EndsIn (path name : List UInt8) : Prop :=
  IsComponent name ∧ ∃ front trail, path = front ++ name ++ trail ∧
    (∀ b ∈ front.getLast?, b = 47) ∧ IsTrail trail

/-- The component that a path ends in is the last of its components. -/
theorem EndsIn.getLast?_components {path name : List UInt8} (ends : EndsIn path name) :
    (components path).getLast? = some name := by
  obtain ⟨isComponent, front, trail, rfl, startsThere, isTrail⟩ := ends
  rw [components_append_trail isTrail]
  rcases List.eq_nil_or_concat' front with rfl | ⟨directory, b, rfl⟩
  · rw [List.nil_append, components_of_isComponent isComponent]
    rfl
  · rw [List.getLast?_concat] at startsThere
    cases startsThere b rfl
    rw [List.append_assoc, List.singleton_append, components_append_cons,
      components_of_isComponent isComponent, List.getLast?_concat]

theorem EndsIn.append_trail {path name trail : List UInt8} (ends : EndsIn path name)
    (isTrail : IsTrail trail) : EndsIn (path ++ trail) name := by
  obtain ⟨isComponent, front, before, rfl, startsThere, wasTrail⟩ := ends
  exact ⟨isComponent, front, before ++ trail, List.append_assoc _ _ _, startsThere,
    wasTrail.append isTrail⟩

/-- A sequence of bytes, cut at the last occurrence of one of them. -/
theorem exists_last_of_mem {b : UInt8} {content : List UInt8} (isMember : b ∈ content) :
    ∃ front back, content = front ++ b :: back ∧ b ∉ back := by
  obtain ⟨before, after, isContent, none⟩ :=
    List.eq_append_cons_of_mem (List.mem_reverse.mpr isMember)
  refine ⟨after.reverse, before.reverse, ?_, fun member => none (List.mem_reverse.mp member)⟩
  rw [← List.reverse_reverse content, isContent]
  simp

/-- A path ends in the last of its components. The induction is on the length of the path: what
stands behind the last slash is the component, or it is part of the trail. -/
theorem endsIn_of_getLast? {path name : List UInt8}
    (isLast : (components path).getLast? = some name) : EndsIn path name := by
  by_cases isSlash : 47 ∈ path
  · obtain ⟨front, back, rfl, noSlash⟩ := exists_last_of_mem isSlash
    have shorter : front.length < (front ++ 47 :: back).length := by simp
    rw [components_append_cons] at isLast
    by_cases isEmpty : back = []
    · subst isEmpty
      exact (endsIn_of_getLast? (by simpa [components, splitAt] using isLast)).append_trail
        IsTrail.nil.slash
    · by_cases isDot : back = [46]
      · subst isDot
        exact (endsIn_of_getLast? (by simpa [components, splitAt] using isLast)).append_trail
          IsTrail.nil.slashDot
      · have isComponent : IsComponent back := ⟨isEmpty, noSlash, isDot⟩
        rw [components_of_isComponent isComponent, List.getLast?_concat,
          Option.some.injEq] at isLast
        subst isLast
        refine ⟨isComponent, front ++ [47], [], by simp, ?_, .nil⟩
        intro b isEnd
        rw [List.getLast?_concat] at isEnd
        exact (Option.mem_some.mp isEnd).symm
  · rw [components, Text.splitAt_of_not_mem isSlash] at isLast
    have isOwn : path = name ∧ path ≠ [] ∧ path ≠ [46] := by
      by_cases isPart : path ≠ [] ∧ path ≠ [46]
      · simp_all
      · simp_all
    obtain ⟨rfl, isEmpty, isDot⟩ := isOwn
    exact ⟨⟨isEmpty, isSlash, isDot⟩, [], [], by simp, by simp, .nil⟩
termination_by path.length

/-- A file name is the component that a path ends in; two points name no file. -/
theorem fileName?_eq_some_iff {path name : List UInt8} :
    fileName? path = some name ↔ EndsIn path name ∧ name ≠ [46, 46] := by
  have isLast : (components path).getLast? = some name ↔ EndsIn path name :=
    ⟨endsIn_of_getLast?, EndsIn.getLast?_components⟩
  rw [← isLast, components]
  unfold fileName?
  split
  · rename_i isParent
    simp [isParent]
    exact fun isName => isName.symm
  · rename_i notParent
    constructor
    · intro isName
      exact ⟨isName, fun isParent => notParent (isParent ▸ isName)⟩
    · exact And.left

/-! ## Extensions -/

/-- Whether a name consists of a stem, a dot and an extension: the dot is the last one, and it is
not the first character. -/
def HasExtension (name extension : List UInt8) : Prop :=
  ∃ stem, name = stem ++ 46 :: extension ∧ stem ≠ [] ∧ 46 ∉ extension

theorem extension?_append_cons (stem : List UInt8) {extension : List UInt8}
    (noDot : 46 ∉ extension) :
    extension? (stem ++ 46 :: extension) = if stem = [] then none else some extension := by
  have reversed : (stem ++ 46 :: extension).reverse = extension.reverse ++ 46 :: stem.reverse := by
    simp
  have behind : ∀ b ∈ extension.reverse, (b != 46) = true := by
    intro b isMember
    rw [bne_iff_ne]
    rintro rfl
    exact noDot (List.mem_reverse.mp isMember)
  rw [extension?, reversed, List.dropWhile_append_of_pos behind,
    List.dropWhile_cons_of_neg (by decide), List.takeWhile_append_of_pos behind,
    List.takeWhile_cons_of_neg (by decide), List.append_nil, List.reverse_reverse]
  rcases List.eq_nil_or_concat' stem with rfl | ⟨before, last, rfl⟩
  · rfl
  · rw [List.reverse_concat, if_neg (List.concat_ne_nil last before)]

theorem extension?_of_not_mem {name : List UInt8} (noDot : 46 ∉ name) :
    extension? name = none := by
  have noneLeft : name.reverse.dropWhile (· != 46) = [] := by
    rw [List.dropWhile_eq_nil_iff]
    intro b isMember
    rw [bne_iff_ne]
    rintro rfl
    exact noDot (List.mem_reverse.mp isMember)
  rw [extension?, noneLeft]

/-- What counts as the extension of a name. -/
theorem extension?_eq_some_iff {name extension : List UInt8} :
    extension? name = some extension ↔ HasExtension name extension := by
  constructor
  · intro isFound
    by_cases isDot : 46 ∈ name
    · obtain ⟨stem, behind, rfl, noDot⟩ := exists_last_of_mem isDot
      rw [extension?_append_cons stem noDot] at isFound
      split at isFound
      · cases isFound
      · rename_i notEmpty
        cases isFound
        exact ⟨stem, rfl, notEmpty, noDot⟩
    · rw [extension?_of_not_mem isDot] at isFound
      cases isFound
  · rintro ⟨stem, rfl, notEmpty, noDot⟩
    rw [extension?_append_cons stem noDot, if_neg notEmpty]

/-! ## Kinds by extension -/

/-- The kind in the table for an extension that is a text, with its ASCII letters in lower case. An
extension that is no text, or is not in the table, is of another kind. -/
def tabled (extension : List UInt8) : DocumentKind :=
  match Text.ofBytes? extension with
  | some text => (extensions.lookup (text.map Char.toLower)).getD .other
  | none => .other

private theorem lowercaseByte_of_not_ascii {b : UInt8} (beyond : 0x80 ≤ b.toNat) :
    lowercaseByte b = b := by
  have notCapital : ¬ b ≤ 90 := by
    intro isSmall
    have small : b.toNat ≤ 90 := UInt8.le_iff_toNat_le.mp isSmall
    omega
  simp [lowercaseByte, notCapital]

/-- Lower-casing commutes with encoding: only ASCII characters have ASCII bytes. -/
theorem map_lowercaseByte_utf8EncodeChar (c : Char) :
    (String.utf8EncodeChar c).map lowercaseByte = String.utf8EncodeChar c.toLower := by
  by_cases isAscii : c.toNat < 0x80
  · have inAscii : ∀ n < 0x80, (String.utf8EncodeChar (Char.ofNat n)).map lowercaseByte =
        String.utf8EncodeChar (Char.ofNat n).toLower := by
      decide
    rw [← Char.ofNat_toNat c]
    exact inAscii c.toNat isAscii
  · rw [Text.toLower_of_not_ascii isAscii]
    have kept : ∀ b ∈ String.utf8EncodeChar c, lowercaseByte b = b := fun b isByte =>
      lowercaseByte_of_not_ascii (Text.toNat_ge_of_mem_utf8EncodeChar isAscii isByte)
    rw [List.map_congr_left kept, List.map_id']

private theorem map_lowercaseByte_stringBytes (text : String) :
    (Text.stringBytes text).map lowercaseByte = Text.stringBytes (text.map Char.toLower) := by
  rw [Text.stringBytes, Text.stringBytes, String.toList_map, Text.bytes, Text.bytes,
    List.map_flatMap, List.flatMap_map]
  exact congrArg (List.flatMap · text.toList) (funext map_lowercaseByte_utf8EncodeChar)

private theorem lookup_eq_map_find? (entries : List (String × DocumentKind)) (key : String) :
    entries.lookup key = (entries.find? fun entry => entry.1 == key).map Prod.snd := by
  induction entries with
  | nil => rfl
  | cons entry entries inductionHypothesis =>
      rw [lookup_cons_eq_ite, List.find?_cons]
      by_cases isKey : key = entry.1
      · simp [isKey]
      · have notKey : (entry.1 == key) = false := by simpa using Ne.symm isKey
        rw [if_neg isKey, notKey, inductionHypothesis]

/-- Bytes whose lower-case form is that of a text in the table are a text. -/
theorem isText_of_tabled {extension : List UInt8} {entry : String × DocumentKind}
    (isEntry : entry ∈ extensions)
    (same : Text.stringBytes entry.1 = extension.map lowercaseByte) :
    ∃ text, extension = Text.stringBytes text := by
  have tableIsAscii : extensions.all
      (fun entry => (Text.stringBytes entry.1).all fun b => b.toNat < 0x80) = true := by decide
  apply Text.exists_of_ascii_bytes
  intro b isByte
  have lowered : lowercaseByte b ∈ Text.stringBytes entry.1 := same ▸ List.mem_map_of_mem isByte
  have entryIsAscii := List.all_eq_true.mp tableIsAscii entry isEntry
  have isAscii := of_decide_eq_true (List.all_eq_true.mp entryIsAscii _ lowered)
  apply Nat.lt_of_not_le
  intro beyond
  rw [lowercaseByte_of_not_ascii beyond] at isAscii
  omega

private theorem ofExtension_eq_tabled (extension : List UInt8) :
    ofExtension extension = tabled extension := by
  unfold ofExtension tabled
  cases isText : Text.ofBytes? extension with
  | some text =>
      rw [Text.ofBytes?_eq_some_iff.mp isText, map_lowercaseByte_stringBytes]
      have sameTest : (fun entry : String × DocumentKind =>
          Text.stringBytes entry.1 == Text.stringBytes (text.map Char.toLower)) =
          fun entry => entry.1 == text.map Char.toLower := by
        funext entry
        rw [Bool.eq_iff_iff, beq_iff_eq, beq_iff_eq, Text.stringBytes_inj]
      dsimp only
      rw [sameTest, lookup_eq_map_find?]
      cases extensions.find? fun entry => entry.1 == text.map Char.toLower <;> rfl
  | none =>
      have noEntry : (extensions.find? fun entry =>
          Text.stringBytes entry.1 == extension.map lowercaseByte) = none := by
        rw [List.find?_eq_none]
        intro entry isEntry same
        obtain ⟨text, rfl⟩ := isText_of_tabled isEntry (beq_iff_eq.mp same)
        rw [Text.ofBytes?_eq_some_iff.mpr rfl] at isText
        cases isText
      rw [noEntry]

/-! ## Kinds by path -/

/-- The kind of a path whose last component has an extension, and of any other path. -/
theorem ofPath_eq (path : List UInt8) :
    ofPath path = (((fileName? path).bind extension?).map tabled).getD .other := by
  unfold ofPath
  cases (fileName? path).bind extension? with
  | none => rfl
  | some extension => exact ofExtension_eq_tabled extension

/-- Whether the last component of a path has an extension. Two dots are no name. -/
def TellsExtension (path extension : List UInt8) : Prop :=
  ∃ name, EndsIn path name ∧ name ≠ [46, 46] ∧ HasExtension name extension

private theorem bind_extension?_eq_some_iff {path extension : List UInt8} :
    (fileName? path).bind extension? = some extension ↔ TellsExtension path extension := by
  simp only [Option.bind_eq_some_iff, fileName?_eq_some_iff, extension?_eq_some_iff,
    TellsExtension, and_assoc]

/-- What the file name of a path is does not hang on what stands in front of its last component or
behind it. -/
theorem fileName?_of_components {path other : List UInt8}
    (sameLast : (components path).getLast? = (components other).getLast?) :
    fileName? path = fileName? other := by
  rw [components, components] at sameLast
  unfold fileName?
  rw [sameLast]

/-- **The kind of a path is told by the extension of its last component**, and by that alone. -/
theorem ofPath_follows_extension (path : List UInt8) :
    (∀ name, EndsIn path name →
        (∀ trail, IsTrail trail → ofPath (path ++ trail) = ofPath path) ∧
          ∀ directory, ofPath (directory ++ 47 :: path) = ofPath path) ∧
      (∀ extension, TellsExtension path extension → ofPath path = tabled extension) ∧
      ((¬ ∃ extension, TellsExtension path extension) → ofPath path = .other) := by
  refine ⟨?_, ?_, ?_⟩
  · intro name ends
    constructor
    · intro trail isTrail
      rw [ofPath, ofPath, fileName?_of_components]
      rw [components_append_trail isTrail]
    · intro directory
      rw [ofPath, ofPath, fileName?_of_components]
      rw [components_append_cons, List.getLast?_append, ends.getLast?_components, Option.some_or]
  · intro extension told
    rw [ofPath_eq, bind_extension?_eq_some_iff.mpr told]
    rfl
  · intro untold
    have noExtension : (fileName? path).bind extension? = none := by
      rw [Option.eq_none_iff_forall_ne_some]
      intro extension isFound
      exact untold ⟨extension, bind_extension?_eq_some_iff.mp isFound⟩
    rw [ofPath_eq, noExtension]
    rfl

example : ofPath (Text.stringBytes "src/.hidden/App.test.JSX/./") = .javascriptReact := by decide

example : ofPath (Text.stringBytes "src/.jsx") = .other := by decide

end WebCompat.DocumentKind
