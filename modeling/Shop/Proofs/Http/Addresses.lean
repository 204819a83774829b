import Mathlib.Data.List.TakeWhile
import Shop.Http.Route
import Shop.Proofs.Number.Decimal
import Shop.Proofs.Text.Splitting

/-!
# What addresses say

A part of an address without the signs that have a meaning there stands for itself.  So the names and
values of a query are read back from its text, and a client can ask for the page of any number and
size.
-/

namespace Shop
namespace Http

/-! ## Text that stands for itself -/

/-- Text without a percent sign stands for itself. -/
theorem unescapeBytes_plain {cs : List Char} (free : '%' ∉ cs) (out : ByteArray) :
    unescapeBytes out cs = out ++ (String.ofList cs).toUTF8 := by
  induction cs generalizing out with
  | nil => simp [unescapeBytes]
  | cons c cs inductionHypothesis =>
    rcases List.ne_and_not_mem_of_not_mem_cons free with ⟨other, rest⟩
    rw [unescapeBytes, inductionHypothesis rest]
    · have joined : String.ofList (c :: cs) = String.singleton c ++ String.ofList cs := by
        rw [← String.toList_inj]
        simp
      rw [joined]
      simp only [String.toUTF8, String.toByteArray_append, ByteArray.append_assoc]
    · exact fun _ _ _ same => absurd same.symm other

theorem unescape?_plain {s : String} (free : '%' ∉ s.toList) : unescape? s = some s := by
  rw [unescape?, unescapeBytes_plain free, String.ofList_toList, ByteArray.empty_append]
  exact dif_pos s.isValidUTF8

/-- Text without the signs that have a meaning in queries and where these begin and end. -/
def Unmarked (s : String) : Prop := ∀ c ∈ s.toList, c ∉ ['%', '+', '=', '&', '?', '#']

instance (s : String) : Decidable (Unmarked s) :=
  List.decidableBAll (fun c => c ∉ ['%', '+', '=', '&', '?', '#']) s.toList

theorem Unmarked.not_mem {s : String} (unmarked : Unmarked s) {c : Char}
    (mark : c ∈ ['%', '+', '=', '&', '?', '#']) : c ∉ s.toList :=
  fun member => unmarked c member mark

theorem unescapeQuery_unmarked {s : String} (unmarked : Unmarked s) : unescapeQuery s = s := by
  have kept : s.toList.map (fun c => if c = '+' then ' ' else c) = s.toList := by
    refine (List.map_congr_left fun c member => if_neg ?_).trans (List.map_id _)
    rintro rfl
    exact unmarked.not_mem (by decide) member
  have text : String.fromUTF8? s.toUTF8 = some s := dif_pos s.isValidUTF8
  rw [unescapeQuery, kept, unescapeBytes_plain (unmarked.not_mem (by decide)), String.ofList_toList,
    ByteArray.empty_append, readableText, text]

/-! ## Cutting -/

theorem cutAt_append {mark : Char} {before : String} (free : mark ∉ before.toList)
    (after : String) :
    cutAt mark (before ++ String.singleton mark ++ after) = (before, some after) := by
  have passed : ∀ c ∈ before.toList, (c != mark) = true := fun c member =>
    bne_iff_ne.mpr fun same => free (same ▸ member)
  have chars : (before ++ String.singleton mark ++ after).toList =
      before.toList ++ mark :: after.toList := by simp
  simp only [cutAt, chars]
  rw [List.takeWhile_append_of_pos passed, List.dropWhile_append_of_pos passed]
  simp

theorem cutAt_of_not_mem {mark : Char} {s : String} (free : mark ∉ s.toList) :
    cutAt mark s = (s, none) := by
  have passed : ∀ c ∈ s.toList, (c != mark) = true := fun c member =>
    bne_iff_ne.mpr fun same => free (same ▸ member)
  rw [cutAt, List.dropWhile_eq_nil_iff.mpr passed]

/-! ## Queries -/

/-- The text of a query. -/
def queryText (pairs : List (String × String)) : String :=
  String.intercalate "&" (pairs.map fun pair => pair.1 ++ "=" ++ pair.2)

/-- A query falls apart into what was put together. -/
theorem splitOn_queryText {pairs : List (String × String)}
    (unmarked : ∀ pair ∈ pairs, Unmarked pair.1 ∧ Unmarked pair.2) :
    ((queryText pairs).splitOn "&").filter (· != "") =
      pairs.map fun pair => pair.1 ++ "=" ++ pair.2 := by
  cases pairs with
  | nil =>
    have none : "".splitOn "&" = [""] := (Text.splitOn_singleton '&' "").trans (by decide +kernel)
    rw [queryText, List.map_nil, String.intercalate_nil, none]
    rfl
  | cons first pairs =>
    have free : ∀ part ∈ (first :: pairs).map fun pair => pair.1 ++ "=" ++ pair.2,
        '&' ∉ part.toList := by
      refine List.forall_mem_map.mpr fun pair member => ?_
      rcases unmarked pair member with ⟨name, value⟩
      simp [name.not_mem (c := '&') (by decide), value.not_mem (c := '&') (by decide)]
    rw [queryText]
    refine (congrArg (List.filter (· != "")) (Text.splitOn_intercalate '&' (by simp) free)).trans
      (List.filter_eq_self.mpr ?_)
    refine List.forall_mem_map.mpr fun pair _ => bne_iff_ne.mpr fun empty => ?_
    have chars := congrArg String.toList empty
    simp at chars

/-- Names and values are read back from the text of a query. -/
theorem queryPairs_queryText {pairs : List (String × String)}
    (unmarked : ∀ pair ∈ pairs, Unmarked pair.1 ∧ Unmarked pair.2) :
    queryPairs (queryText pairs) = pairs := by
  rw [queryPairs, splitOn_queryText unmarked, List.map_map]
  refine (List.map_congr_left fun pair member => ?_).trans (List.map_id _)
  rcases unmarked pair member with ⟨name, value⟩
  have cut : cutAt '=' (pair.1 ++ "=" ++ pair.2) = (pair.1, some pair.2) :=
    cutAt_append (name.not_mem (by decide)) pair.2
  simp only [Function.comp_apply, cut, Option.getD_some, unescapeQuery_unmarked name,
    unescapeQuery_unmarked value]
  rfl

theorem not_mem_queryText {pairs : List (String × String)}
    (unmarked : ∀ pair ∈ pairs, Unmarked pair.1 ∧ Unmarked pair.2) :
    '#' ∉ (queryText pairs).toList := by
  have other : ∀ c ∈ (queryText pairs).toList, c ≠ '#' := by
    refine Text.forall_mem_intercalate (c := '&') (by decide) (List.forall_mem_map.mpr ?_)
    intro pair member c inside same
    rcases unmarked pair member with ⟨name, value⟩
    subst same
    simp [name.not_mem (c := '#') (by decide), value.not_mem (c := '#') (by decide)] at inside
  exact fun member => other '#' member rfl

/-- A target that begins with a slash and has a query. -/
theorem Target.read_of_query {path query : String} (absolute : path.toList.head? = some '/')
    (unmarked : Unmarked path) (whole : '#' ∉ query.toList) :
    Target.read (path ++ "?" ++ query) = ⟨"", path, some query⟩ := by
  have uncut : cutAt '#' (path ++ "?" ++ query) = (path ++ "?" ++ query, none) := by
    refine cutAt_of_not_mem ?_
    simp [unmarked.not_mem (c := '#') (by decide), whole]
  have cut : cutAt '?' (path ++ "?" ++ query) = (path, some query) :=
    cutAt_append (unmarked.not_mem (by decide)) query
  have first : (path ++ "?" ++ query).toList.head? = some '/' := by
    rw [String.toList_append, String.toList_append, List.append_assoc, List.head?_append, absolute]
    rfl
  have named : path ≠ "" := by
    rintro rfl
    cases absolute
  simp only [Target.read, uncut, first, cut, if_neg named]

/-! ## Pages -/

/-- What a client writes that asks for the page of a number and a size. -/
def pagePairs (number limit : Option Int) : List (String × String) :=
  (number.map fun n => ("page", toString n)).toList ++
    (limit.map fun n => ("limit", toString n)).toList

theorem unmarked_decimal (n : Int) : Unmarked (toString n) := by
  intro c member mark
  simp only [List.mem_cons, List.not_mem_nil, or_false] at mark
  rcases Number.decimal_chars n c member with digit | rfl
  · rcases mark with rfl | rfl | rfl | rfl | rfl | rfl <;> exact absurd digit (by decide)
  · exact absurd mark (by decide)

theorem pagePairs_unmarked (number limit : Option Int) :
    ∀ pair ∈ pagePairs number limit, Unmarked pair.1 ∧ Unmarked pair.2 := by
  have page : Unmarked "page" := by decide
  have size : Unmarked "limit" := by decide
  intro pair member
  rcases List.mem_append.mp member with member | member
  · rw [Option.mem_toList, Option.map_eq_some_iff] at member
    rcases member with ⟨n, _, rfl⟩
    exact ⟨page, unmarked_decimal n⟩
  · rw [Option.mem_toList, Option.map_eq_some_iff] at member
    rcases member with ⟨n, _, rfl⟩
    exact ⟨size, unmarked_decimal n⟩

theorem readOnce_decimal (name : String) {n : Int}
    (within : Number.int64.holds n = true) : readOnce name (toString n) none = .ok (some n) := by
  have read := Number.read_toString (r := Number.int64) (by decide) (by decide)
    (of_decide_eq_true within)
  simp only [readOnce, read]
  rfl

theorem readPage_page {n : Int} (within : Number.int64.holds n = true) (limit : Option Int)
    (pairs : List (String × String)) :
    readPage none limit (("page", toString n) :: pairs) = readPage (some n) limit pairs := by
  rw [readPage, if_pos rfl, readOnce_decimal "page" within]
  rfl

theorem readPage_limit {n : Int} (within : Number.int64.holds n = true) (number : Option Int)
    (pairs : List (String × String)) :
    readPage number none (("limit", toString n) :: pairs) = readPage number (some n) pairs := by
  rw [readPage, if_neg (by decide), if_pos rfl, readOnce_decimal "limit" within]
  rfl

/-- The numbers that a client asks for are read, where they are integers of 64 bits. -/
theorem pageOf_pagePairs {number limit : Option Int}
    (numberWithin : ∀ n ∈ number, Number.int64.holds n = true)
    (limitWithin : ∀ n ∈ limit, Number.int64.holds n = true) :
    pageOf (queryText (pagePairs number limit)) = .ok (.of number limit) := by
  have sized (number : Option Int) :
      readPage number none (limit.map fun n => ("limit", toString n)).toList =
        .ok (.of number limit) := by
    cases limit with
    | none => rfl
    | some size => exact readPage_limit (limitWithin size rfl) number []
  rw [pageOf, queryPairs_queryText (pagePairs_unmarked number limit), pagePairs]
  cases number with
  | none => exact sized none
  | some page => exact (readPage_page (numberWithin page rfl) none _).trans (sized _)

/-- A request without a query is for the first page. -/
theorem Request.page_of_noQuery {r : Request} (unasked : (Target.read r.target).query = none) :
    r.page = .ok (.of none none) := by
  have first : pageOf (queryText (pagePairs none none)) = .ok (.of none none) :=
    pageOf_pagePairs (by simp) (by simp)
  have empty : queryText (pagePairs none none) = "" := rfl
  rw [page, unasked, Option.getD_none, ← empty, first]

/-- A client gets the page that it asks for. -/
theorem Request.page_of_query {r : Request} {path : String} {number limit : Option Int}
    (absolute : path.toList.head? = some '/') (unmarked : Unmarked path)
    (target : r.target = path ++ "?" ++ queryText (pagePairs number limit))
    (numberWithin : ∀ n ∈ number, Number.int64.holds n = true)
    (limitWithin : ∀ n ∈ limit, Number.int64.holds n = true) :
    r.page = .ok (.of number limit) := by
  rw [page, target, Target.read_of_query absolute unmarked
    (not_mem_queryText (pagePairs_unmarked number limit)), Option.getD_some,
    pageOf_pagePairs numberWithin limitWithin]

end Http
end Shop
