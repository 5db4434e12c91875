/-
RecordStore.Proofs.Url.AfterHost -- what stands behind the host of a URL

A URL whose text goes on behind the authority shows it: there is a query or a
fragment, or the path is more than the root.  The path alone would not tell, since
dots take segments away again, but only if the last segment is of dots too; a text
that ends with a letter other than those of `%2e` leaves its last segment behind
(`not_isRoot_of_after`).
-/
import RecordStore.Proofs.Url.Authority
import RecordStore.Proofs.Url.PlainLabels

namespace RecordStore.Url

set_option autoImplicit false

open RecordStore.Text

/-- Nothing behind the authority. -/
structure IsRoot (u : Url) : Prop where
  path : u.path = "/"
  query : u.query? = none
  fragment : u.fragment? = none

/-- A character that no segment of dots ends with, and that stands in a path as it is. -/
structure KeepsSegment (c : Char) : Prop where
  written : CharSet.path c = false
  undotted : c.toLower ≠ '.' ∧ c.toLower ≠ 'e'

/-! ## Paths -/

/-- The last piece of a text ends as the text does. -/
theorem splitAt_concat {isSeparator : Char → Bool} {last : Char}
    (inside : isSeparator last = false) (cs : List Char) :
    ∃ pieces piece, splitAt isSeparator (cs ++ [last]) = pieces ++ [piece ++ [last]] := by
  induction cs with
  | nil => exact ⟨[], [], splitAt_eq_singleton (by simpa using inside)⟩
  | cons c cs ih =>
    obtain ⟨pieces, piece, parts⟩ := ih
    rw [List.cons_append, splitAt_cons, parts]
    split
    · exact ⟨[] :: pieces, piece, rfl⟩
    · cases pieces with
      | nil => exact ⟨[], c :: piece, rfl⟩
      | cons first pieces => exact ⟨(c :: first) :: pieces, piece, rfl⟩

theorem KeepsSegment.not_dots {last : Char} (keeps : KeepsSegment last) (cs : List Char) :
    isOneDot (cs ++ [last]) = false ∧ isTwoDots (cs ++ [last]) = false := by
  have unlisted (dots : List (List Char))
      (ends : ∀ segment ∈ dots, segment.getLast? = some '.' ∨ segment.getLast? = some 'e') :
      dots.contains ((cs ++ [last]).map Char.toLower) = false := by
    rw [Bool.eq_false_iff]
    intro listed
    have ending := ends _ (List.contains_iff_mem.1 listed)
    rw [List.map_append, List.map_singleton, List.getLast?_concat, Option.some_inj,
      Option.some_inj] at ending
    exact ending.elim keeps.undotted.1 keeps.undotted.2
  exact ⟨unlisted _ (by decide), unlisted _ (by decide)⟩

/-- The last segment of a path stands at its end, unless it is one of dots. -/
theorem addAll_concat (port : Nat) {segment : List Char} (one : isOneDot segment = false)
    (two : isTwoDots segment = false) (segments : List (List Char)) (r : PathReader) :
    ∃ before, (PathReader.addAll (.special port) r (segments ++ [segment])).path =
      before ++ percentEncode .path segment := by
  induction segments generalizing r with
  | nil =>
    refine ⟨r.path, ?_⟩
    rw [List.nil_append, PathReader.addAll, PathReader.add]
    simp [one, two]
  | cons first segments ih =>
    obtain ⟨next, rest, others⟩ := List.exists_cons_of_ne_nil
      (List.append_ne_nil_of_right_ne_nil segments (List.cons_ne_nil segment []))
    rw [List.cons_append, others, PathReader.addAll, ← others]
    · exact ih _
    · exact List.cons_ne_nil _ _

/-- The path of a text that ends with a segment that is kept. -/
theorem readPath_concat {port : Nat} {last : Char} (keeps : KeepsSegment last)
    (inside : (SchemeKind.special port).isSlash last = false) (cs : List Char) :
    ∃ before, (readPath (.special port) (cs ++ [last])).path = before ++ [last] := by
  obtain ⟨pieces, piece, parts⟩ := splitAt_concat inside cs
  obtain ⟨one, two⟩ := keeps.not_dots piece
  obtain ⟨before, path⟩ := addAll_concat port one two pieces ⟨['/'], false⟩
  have written : percentEncode .path (piece ++ [last]) = percentEncode .path piece ++ [last] := by
    simp [percentEncode, encodeChar, keeps.written]
  refine ⟨before ++ percentEncode .path piece, ?_⟩
  rw [readPath, parts, if_neg (by simp), path, written, List.append_assoc]

/-! ## URLs -/

theorem readHosted_eq_ok {scheme : String} {port : Nat} {cs : List Char} {u : Url}
    (read : readHosted scheme (.special port) cs = .ok u) :
    ∃ a rest, readAuthority (.special port) (cs.dropWhile (SchemeKind.special port).isSlash) =
      .ok (a, rest) ∧
      u = withRest (.special port) scheme (some a)
        (readPath (.special port) (splitPath (.special port) rest).1).path
        (splitPath (.special port) rest).2 := by
  obtain ⟨⟨a, rest⟩, authority, done⟩ := bind_eq_ok.1 read
  cases done
  exact ⟨a, rest, authority, rfl⟩

/-- What follows a path is a query or a fragment. -/
theorem withRest_not_root {kind : SchemeKind} {scheme : String} {authority? : Option Authority}
    {path rest : List Char} {c : Char} (ends : endsPath c = true) :
    ¬ IsRoot (withRest kind scheme authority? path (c :: rest)) := by
  rintro ⟨-, query, fragment⟩
  rw [endsPath, Bool.or_eq_true, beq_iff_eq, beq_iff_eq] at ends
  rcases ends with rfl | rfl
  · cases query
  · cases fragment

/-- A slash in front of a path is passed over. -/
theorem splitPath_cons {kind : SchemeKind} {c : Char} (slash : kind.isSlash c = true)
    (inside : endsPath c = false) (cs : List Char) : splitPath kind (c :: cs) =
      (cs.takeWhile (fun c => !endsPath c), cs.dropWhile (fun c => !endsPath c)) := by
  rw [splitPath, List.takeWhile_cons_of_pos (by simpa using inside),
    List.dropWhile_cons_of_pos (by simpa using inside)]
  simp only [slash, if_true]

/-- A text that goes on behind its authority, and ends with a character that keeps its segment. -/
theorem not_isRoot_of_after {scheme : String} {port : Nat} {authority? : Option Authority}
    {after : List Char} {c last : Char} (keeps : KeepsSegment last)
    (inside : (SchemeKind.special port).endsAuthority last = false)
    (border : (SchemeKind.special port).endsAuthority c = true) :
    ¬ IsRoot (withRest (.special port) scheme authority?
      (readPath (.special port) (splitPath (.special port) (c :: (after ++ [last]))).1).path
      (splitPath (.special port) (c :: (after ++ [last]))).2) := by
  by_cases ends : endsPath c = true
  · have rest : (splitPath (.special port) (c :: (after ++ [last]))).2 =
        c :: (after ++ [last]) := by
      rw [splitPath, List.dropWhile_cons_of_neg (by simp [ends])]
    rw [rest]
    exact withRest_not_root ends
  have slash : (SchemeKind.special port).isSlash c = true := by
    rw [SchemeKind.endsAuthority, Bool.or_assoc, Bool.or_eq_true] at border
    exact border.resolve_right ends
  rw [splitPath_cons slash (by simpa using ends)]
  cases rest : (after ++ [last]).dropWhile (fun c => !endsPath c) with
  | cons d more =>
    exact withRest_not_root (by simpa using of_dropWhile_eq_cons rest)
  | nil =>
    have whole := List.takeWhile_append_dropWhile (p := fun c => !endsPath c) (l := after ++ [last])
    rw [rest, List.append_nil] at whole
    rw [SchemeKind.endsAuthority, Bool.or_assoc, Bool.or_eq_false_iff] at inside
    obtain ⟨before, path⟩ := readPath_concat keeps inside.1 after
    rintro ⟨root, -, -⟩
    rw [whole, path] at root
    replace root : String.ofList (before ++ [last]) = "/" := root
    have slash : before ++ [last] = ['/'] := by simpa using congrArg String.toList root
    have last_ : last = '/' := by simpa using congrArg List.getLast? slash
    rw [last_] at inside
    cases inside.1

end RecordStore.Url
