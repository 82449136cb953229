import Mathlib.Data.List.Infix
import PluginKit.Dependency
import PluginKit.Proofs.Text.Split

/-!
# Enumerations of missing dependencies

Two names stand around "and", more of them between commas.  Names that have neither in them are
therefore found again in the text:

    (∀ name ∈ xs, IsOrdinary name) → (∀ name ∈ ys, IsOrdinary name) →
      enumerate xs = enumerate ys → xs = ys                                 (enumerate_injective)

At most two names give a text without a comma, in which only two have "and" between them; from three
names on the text is split at its commas.
-/

namespace PluginKit.Dependency

/-- A name that is not empty and has neither a comma nor "and" in it. -/
structure IsOrdinary (name : String) : Prop where
  ne_empty : name ≠ ""
  comma_not_mem : ',' ∉ name.toList
  no_and : ¬ "and".toList <:+: name.toList

theorem isOrdinary_iff {name : String} :
    IsOrdinary name ↔ name ≠ "" ∧ ',' ∉ name.toList ∧
      ∀ tail ∈ name.toList.tails, ¬ "and".toList <+: tail := by
  have hwithin : "and".toList <:+: name.toList ↔
      ∃ tail ∈ name.toList.tails, "and".toList <+: tail := by
    simp only [List.infix_iff_prefix_suffix, List.mem_tails, and_comm]
  constructor
  · rintro ⟨hne, hcomma, hand⟩
    exact ⟨hne, hcomma, fun tail hmem hprefix => hand (hwithin.2 ⟨tail, hmem, hprefix⟩)⟩
  · rintro ⟨hne, hcomma, hand⟩
    refine ⟨hne, hcomma, fun h => ?_⟩
    obtain ⟨tail, hmem, hprefix⟩ := hwithin.1 h
    exact hand tail hmem hprefix

instance (name : String) : Decidable (IsOrdinary name) :=
  decidable_of_iff _ isOrdinary_iff.symm

variable {xs ys names : List String}

/-! ## Two names -/

theorem toList_pair (first second : String) :
    (enumerate [first, second]).toList =
      first.toList ++ ([' ', 'a', 'n', 'd', ' '] ++ second.toList) := by
  show (first ++ " and " ++ second).toList = _
  rw [String.toList_append, String.toList_append, List.append_assoc]
  rfl

/-- Two names have "and" between them. -/
theorem and_infix_pair (first second : String) :
    "and".toList <:+: (enumerate [first, second]).toList := by
  rw [toList_pair]
  exact ⟨first.toList ++ [' '], ' ' :: second.toList, by simp⟩

/-- A conjunction begins at one place only in a text that has no "and" before its end. -/
theorem eq_nil_of_overlap {overlap after after' : List Char}
    (hand : ¬ "and".toList <:+: overlap)
    (h : [' ', 'a', 'n', 'd', ' '] ++ after = overlap ++ ([' ', 'a', 'n', 'd', ' '] ++ after')) :
    overlap = [] := by
  rcases overlap with _ | ⟨c, _ | ⟨d, _ | ⟨e, _ | ⟨f, rest⟩⟩⟩⟩
  · rfl
  · simp at h
  · simp at h
  · simp at h
  · -- so much of the overlap holds "and" itself
    simp only [List.cons_append, List.cons.injEq] at h
    obtain ⟨-, rfl, rfl, rfl, -⟩ := h
    exact absurd ⟨[c], rest, rfl⟩ hand

theorem pair_injective {first second first' second' : String}
    (hfirst : IsOrdinary first) (hfirst' : IsOrdinary first')
    (h : enumerate [first, second] = enumerate [first', second']) :
    first = first' ∧ second = second' := by
  have htext := congrArg String.toList h
  rw [toList_pair, toList_pair] at htext
  have hlists : first.toList = first'.toList := by
    obtain ⟨overlap, hsplit, hover⟩ | ⟨overlap, hsplit, hover⟩ := List.append_eq_append_iff.1 htext
    · have hand : ¬ "and".toList <:+: overlap := fun hwithin =>
        hfirst'.no_and (hsplit ▸ hwithin.trans (List.suffix_append _ _).isInfix)
      rw [hsplit, eq_nil_of_overlap hand hover, List.append_nil]
    · have hand : ¬ "and".toList <:+: overlap := fun hwithin =>
        hfirst.no_and (hsplit ▸ hwithin.trans (List.suffix_append _ _).isInfix)
      rw [hsplit, eq_nil_of_overlap hand hover, List.append_nil]
  rw [hlists] at htext
  have hseconds : second.toList = second'.toList :=
    List.append_cancel_left (List.append_cancel_left htext)
  exact ⟨String.toList_inj.1 hlists, String.toList_inj.1 hseconds⟩

/-! ## Three names and more -/

theorem enumerate_of_three_le (h : 3 ≤ names.length) :
    enumerate names = ", ".intercalate names.dropLast ++ ", and " ++ names.getLastD "" := by
  match names, h with
  | _ :: _ :: _ :: _, _ => rfl

/-- All names but the last stand with commas between them, and the last behind a comma and "and". -/
theorem enumerate_concat {init : List String} (hinit : 2 ≤ init.length) (last : String) :
    enumerate (init ++ [last]) = ", ".intercalate init ++ ", and " ++ last := by
  have hlength : 3 ≤ (init ++ [last]).length := by
    rw [List.length_append, List.length_singleton]
    omega
  rw [enumerate_of_three_le hlength, List.dropLast_concat, List.getLastD_concat]

/-- What stands between the commas of an enumeration. -/
def commaParts (first : String) (middle : List String) (last : String) : List (List Char) :=
  first.toList :: (middle.map (fun name => ' ' :: name.toList) ++ [" and ".toList ++ last.toList])

theorem toList_of_many (first : String) {middle : List String} (hmiddle : middle ≠ [])
    (last : String) :
    (enumerate (first :: middle ++ [last])).toList =
      [','].intercalate (commaParts first middle last) := by
  have hinit : 2 ≤ (first :: middle).length :=
    Nat.succ_le_succ (List.length_pos_iff.2 hmiddle)
  rw [enumerate_concat hinit, String.toList_append, String.toList_append, String.toList_intercalate,
    List.map_cons, Split.intercalate_cons, commaParts, Split.intercalate_cons, List.flatMap_append,
    List.flatMap_map, List.flatMap_map]
  simp

theorem splitOn_of_many {first last : String} {middle : List String} (hmiddle : middle ≠ [])
    (hnames : ∀ name ∈ first :: middle ++ [last], IsOrdinary name) :
    (enumerate (first :: middle ++ [last])).toList.splitOn ',' = commaParts first middle last := by
  rw [toList_of_many first hmiddle]
  refine List.splitOn_intercalate ',' ?_ (List.cons_ne_nil _ _)
  intro part hpart
  have hcomma : ∀ name ∈ first :: middle ++ [last], ',' ∉ name.toList := fun name hmem =>
    (hnames name hmem).comma_not_mem
  unfold commaParts at hpart
  simp only [List.mem_cons, List.mem_append, List.mem_map, List.not_mem_nil, or_false] at hpart
  rcases hpart with rfl | ⟨name, hmem, rfl⟩ | rfl
  · exact hcomma first (by simp)
  · have := hcomma name (by simp [hmem])
    simp [this]
  · have := hcomma last (by simp)
    simp [this]

theorem commaParts_injective {first first' last last' : String} {middle middle' : List String}
    (h : commaParts first middle last = commaParts first' middle' last') :
    first :: middle ++ [last] = first' :: middle' ++ [last'] := by
  obtain ⟨hfirst, hrest⟩ := List.cons.inj h
  obtain ⟨hmiddle, hlast⟩ := List.append_inj' hrest rfl
  have hnames : Function.Injective fun name : String => ' ' :: name.toList := by
    intro name name' heq
    exact String.toList_inj.1 (List.cons.inj heq).2
  rw [String.toList_inj.1 hfirst, List.map_injective_iff.2 hnames hmiddle,
    String.toList_inj.1 (List.append_cancel_left (List.cons.inj hlast).1)]

/-! ## All lengths -/

theorem exists_many (h : 3 ≤ names.length) :
    ∃ first middle last, middle ≠ [] ∧ names = first :: middle ++ [last] := by
  match names, h with
  | first :: second :: third :: rest, _ =>
    have hne : third :: rest ≠ [] := List.cons_ne_nil _ _
    refine ⟨first, second :: (third :: rest).dropLast, (third :: rest).getLast hne,
      List.cons_ne_nil _ _, ?_⟩
    rw [List.cons_append, List.cons_append, List.dropLast_append_getLast hne]

/-- From three names on there is a comma, and before that there is none. -/
theorem comma_mem_iff (hnames : ∀ name ∈ names, IsOrdinary name) :
    ',' ∈ (enumerate names).toList ↔ 3 ≤ names.length := by
  constructor
  · intro hmem
    match names with
    | [] => simp [enumerate] at hmem
    | [only] => exact absurd hmem (hnames only (by simp)).comma_not_mem
    | [first, second] =>
      have hfirst := (hnames first (by simp)).comma_not_mem
      have hsecond := (hnames second (by simp)).comma_not_mem
      rw [toList_pair] at hmem
      simp [hfirst, hsecond] at hmem
    | _ :: _ :: _ :: _ => simp
  · intro hmany
    obtain ⟨first, middle, last, hmiddle, rfl⟩ := exists_many hmany
    rw [toList_of_many first hmiddle, commaParts, Split.intercalate_cons]
    simp

theorem few_injective (hxs : ∀ name ∈ xs, IsOrdinary name) (hys : ∀ name ∈ ys, IsOrdinary name)
    (hfew : ¬ 3 ≤ xs.length) (hfew' : ¬ 3 ≤ ys.length) (h : enumerate xs = enumerate ys) :
    xs = ys := by
  match xs, ys with
  | [], [] => rfl
  | [], [y] => exact absurd h.symm (hys y (by simp)).ne_empty
  | [x], [] => exact absurd h (hxs x (by simp)).ne_empty
  | [x], [y] =>
    have heq : x = y := h
    rw [heq]
  | [], [c, d] =>
    have hwithin : "and".toList <:+: (enumerate []).toList := h ▸ and_infix_pair c d
    exact absurd hwithin (by decide)
  | [a, b], [] =>
    have hwithin : "and".toList <:+: (enumerate []).toList := h ▸ and_infix_pair a b
    exact absurd hwithin (by decide)
  | [x], [c, d] =>
    have hwithin : "and".toList <:+: (enumerate [x]).toList := h ▸ and_infix_pair c d
    exact absurd hwithin (hxs x (by simp)).no_and
  | [a, b], [y] =>
    have hwithin : "and".toList <:+: (enumerate [y]).toList := h ▸ and_infix_pair a b
    exact absurd hwithin (hys y (by simp)).no_and
  | [a, b], [c, d] =>
    obtain ⟨rfl, rfl⟩ := pair_injective (hxs a (by simp)) (hys c (by simp)) h
    rfl
  | _ :: _ :: _ :: _, _ => simp at hfew
  | _, _ :: _ :: _ :: _ => simp at hfew'

theorem enumerate_injective (hxs : ∀ name ∈ xs, IsOrdinary name)
    (hys : ∀ name ∈ ys, IsOrdinary name) (h : enumerate xs = enumerate ys) : xs = ys := by
  have hmany_iff : 3 ≤ xs.length ↔ 3 ≤ ys.length := by
    rw [← comma_mem_iff hxs, ← comma_mem_iff hys, h]
  by_cases hmany : 3 ≤ xs.length
  · obtain ⟨first, middle, last, hmiddle, rfl⟩ := exists_many hmany
    obtain ⟨first', middle', last', hmiddle', rfl⟩ := exists_many (hmany_iff.1 hmany)
    refine commaParts_injective ?_
    rw [← splitOn_of_many hmiddle hxs, ← splitOn_of_many hmiddle' hys, h]
  · exact few_injective hxs hys hmany (fun hmany' => hmany (hmany_iff.2 hmany')) h

theorem message_eq_iff (plugin : String) (hxs : ∀ name ∈ xs, IsOrdinary name)
    (hys : ∀ name ∈ ys, IsOrdinary name) :
    message ⟨plugin, xs⟩ = message ⟨plugin, ys⟩ ↔ xs = ys := by
  constructor
  · intro h
    have htext := congrArg String.toList h
    unfold message at htext
    simp only [String.toList_append] at htext
    exact enumerate_injective hxs hys (String.toList_inj.1 (List.append_cancel_left htext))
  · rintro rfl
    rfl

/-- **An enumeration of ordinary names tells which they are**, and in which order; so does the fatal
error of a plugin about its missing dependencies.  From three names on, whatever they are, the text
has commas between all but the last, and a comma and "and" before the last. -/
theorem enumerate_loses_nothing :
    (∀ xs ys : List String, (∀ name ∈ xs, IsOrdinary name) → (∀ name ∈ ys, IsOrdinary name) →
      enumerate xs = enumerate ys → xs = ys) ∧
    (∀ (init : List String) (last : String), 2 ≤ init.length →
      enumerate (init ++ [last]) = ", ".intercalate init ++ ", and " ++ last) ∧
    ∀ (plugin : String) (xs ys : List String), (∀ name ∈ xs, IsOrdinary name) →
      (∀ name ∈ ys, IsOrdinary name) →
      ((message ⟨plugin, xs⟩ = message ⟨plugin, ys⟩ ↔ xs = ys) ∧
        (use ⟨plugin, xs⟩ = use ⟨plugin, ys⟩ ↔ xs = ys)) := by
  refine ⟨fun xs ys hxs hys h => enumerate_injective hxs hys h,
    fun init last hinit => enumerate_concat hinit last, ?_⟩
  intro plugin xs ys hxs hys
  refine ⟨message_eq_iff _ hxs hys, ?_⟩
  rw [← message_eq_iff plugin hxs hys]
  constructor
  · intro h
    exact congrArg Halt.message h
  · intro h
    unfold use
    rw [h]

/-- Three names in two orders, one of them with spaces in it. -/
theorem messages_of_two_orders :
    let xs := ["jQuery", "Google Maps API", "d3"]
    let ys := ["jQuery", "d3", "Google Maps API"]
    ((∀ name ∈ xs, IsOrdinary name) ∧ ∀ name ∈ ys, IsOrdinary name) ∧
      enumerate xs = "jQuery, Google Maps API, and d3" ∧
      use ⟨"geoplot", xs⟩ ≠ use ⟨"geoplot", ys⟩ := by
  intro xs ys
  have hxs : ∀ name ∈ xs, IsOrdinary name := by decide
  have hys : ∀ name ∈ ys, IsOrdinary name := by decide
  have htext : enumerate xs = "jQuery, Google Maps API, and d3" := by cbv
  refine ⟨⟨hxs, hys⟩, htext, fun h => ?_⟩
  exact absurd ((enumerate_loses_nothing.2.2 "geoplot" xs ys hxs hys).2.1 h) (by decide)

end PluginKit.Dependency
