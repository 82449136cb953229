import Mathlib.Data.Option.Basic
import PluginKit.Proofs.Record.Path

/-!
# Paths one after the other

The steps of a path decide where it leads, and a record of its own tells every list of steps from
the others:

    path.resolve? record = walk path.steps record                                (resolve?_eq_walk)
    walk names (nest steps) = some .null ↔ names = steps                   (walk_nest_eq_null_iff)

So two texts with a point between them are one path after the other exactly if the steps of the
whole text are those of its parts in turn (`follows_iff_steps`).  They are, unless the point has to
stand for the whole record: as one of the parts, or between two empty ones (`follows_iff`).
-/

namespace PluginKit.Path

/-! ## Steps -/

/-- The steps of a path. -/
def steps : Path → List String
  | .whole => []
  | .segments names => names

/-- The value at the end of some steps. -/
def walk (names : List String) (record : Json) : Option Json :=
  names.foldlM step? record

theorem resolve?_eq_walk (path : Path) (record : Json) :
    path.resolve? record = walk path.steps record := by
  cases path <;> rfl

theorem walk_append (first second : List String) (record : Json) :
    walk (first ++ second) record = (walk first record).bind (walk second) :=
  List.foldlM_append

theorem steps_parse_of_ne {text : String} (h : text ≠ ".") :
    (parse text).steps = segmentsOf text := by
  rw [parse_of_ne h]
  rfl

/-! ## Records that tell steps apart -/

/-- The record with a single value at the end of some steps, and no other way through it. -/
def nest : List String → Json
  | [] => .null
  | name :: names => .obj [(name, nest names)]

/-- Only the steps of the record lead to its value. -/
theorem walk_nest_eq_null_iff {names steps : List String} :
    walk names (nest steps) = some .null ↔ names = steps := by
  induction steps generalizing names with
  | nil =>
    cases names with
    | nil => exact iff_of_true rfl rfl
    | cons other names => exact iff_of_false nofun (List.cons_ne_nil other names)
  | cons name steps ih =>
    cases names with
    | nil => exact iff_of_false nofun (List.cons_ne_nil name steps).symm
    | cons other names =>
      have hwalk : walk (other :: names) (nest (name :: steps)) =
          (if name = other then some (nest steps) else none).bind (walk names) := rfl
      rw [hwalk, List.cons.injEq]
      by_cases h : name = other
      · rw [if_pos h, Option.bind_some, ih]
        exact ⟨fun hnames => ⟨h.symm, hnames⟩, And.right⟩
      · rw [if_neg h, Option.bind_none]
        exact iff_of_false nofun fun hboth => h hboth.1.symm

/-- Steps that lead to the same value in every record are the same. -/
theorem walk_injective : Function.Injective walk := by
  intro first second h
  have hfirst : walk first (nest first) = some .null := walk_nest_eq_null_iff.2 rfl
  rw [h] at hfirst
  exact (walk_nest_eq_null_iff.1 hfirst).symm

/-! ## Texts with a point between them -/

/-- The path of two texts with a point between them leads where the path of the second leads from
the end of the first. -/
def Follows (p q : String) : Prop :=
  ∀ record, (parse (p ++ "." ++ q)).resolve? record =
    ((parse p).resolve? record).bind (parse q).resolve?

variable {p q : String}

theorem segmentsOf_append (p q : String) :
    segmentsOf (p ++ "." ++ q) = segmentsOf p ++ segmentsOf q := by
  have htext : (p ++ "." ++ q).toList = p.toList ++ '.' :: q.toList := by
    rw [String.toList_append, String.toList_append, List.append_assoc]
    rfl
  unfold segmentsOf
  rw [htext, List.splitOn_append_cons_self, List.map_append]

theorem append_eq_point_iff : p ++ "." ++ q = "." ↔ p = "" ∧ q = "" := by
  constructor
  · intro h
    have hlength := congrArg String.length h
    rw [String.length_append, String.length_append] at hlength
    have hpoint : ".".length = 1 := rfl
    exact ⟨String.length_eq_zero_iff.1 (by omega), String.length_eq_zero_iff.1 (by omega)⟩
  · rintro ⟨rfl, rfl⟩
    rfl

theorem follows_iff_steps :
    Follows p q ↔ (parse (p ++ "." ++ q)).steps = (parse p).steps ++ (parse q).steps := by
  have hright : ∀ record, ((parse p).resolve? record).bind (parse q).resolve? =
      walk ((parse p).steps ++ (parse q).steps) record := by
    intro record
    rw [walk_append, resolve?_eq_walk, funext (resolve?_eq_walk (parse q))]
  constructor
  · intro h
    refine walk_injective (funext fun record => ?_)
    rw [← resolve?_eq_walk, h record, hright record]
  · intro h record
    rw [hright record, resolve?_eq_walk, h]

/-- The steps of a text are at most as many as its segments, and fewer only for the whole record. -/
theorem length_steps_parse_le (text : String) :
    (parse text).steps.length ≤ (segmentsOf text).length := by
  by_cases h : text = "."
  · subst h
    exact Nat.zero_le _
  · rw [steps_parse_of_ne h]

theorem length_steps_parse_point : (parse ".").steps.length + 2 = (segmentsOf ".").length :=
  rfl

theorem follows_iff : Follows p q ↔ p ≠ "." ∧ q ≠ "." ∧ ¬ (p = "" ∧ q = "") := by
  rw [follows_iff_steps]
  by_cases hempty : p = "" ∧ q = ""
  · obtain ⟨rfl, rfl⟩ := hempty
    exact iff_of_false (by decide) (by simp)
  · have htext : p ++ "." ++ q ≠ "." := fun h => hempty (append_eq_point_iff.1 h)
    rw [steps_parse_of_ne htext, segmentsOf_append]
    constructor
    · intro h
      -- a part that is the whole record has fewer steps than segments
      have hlength := congrArg List.length h
      rw [List.length_append, List.length_append] at hlength
      have hp := length_steps_parse_le p
      have hq := length_steps_parse_le q
      have hpoint := length_steps_parse_point
      refine ⟨?_, ?_, hempty⟩
      · rintro rfl
        omega
      · rintro rfl
        omega
    · rintro ⟨hp, hq, -⟩
      rw [steps_parse_of_ne hp, steps_parse_of_ne hq]

/-- **Paths compose.**  Two texts with a point between them are one path after the other for every
record, exactly if none of them is a point and not both are empty.  The path to the whole record
changes nothing, before another path or behind it. -/
theorem resolve?_append_iff :
    (∀ p q : String,
      (∀ record, (parse (p ++ "." ++ q)).resolve? record =
        ((parse p).resolve? record).bind (parse q).resolve?) ↔
          p ≠ "." ∧ q ≠ "." ∧ ¬ (p = "" ∧ q = "")) ∧
    ∀ (path : Path) (record : Json),
      ((parse ".").resolve? record).bind path.resolve? = path.resolve? record ∧
        (path.resolve? record).bind (parse ".").resolve? = path.resolve? record := by
  refine ⟨fun p q => follows_iff, fun path record => ⟨rfl, ?_⟩⟩
  have hpoint : (parse ".").resolve? = some := rfl
  rw [hpoint, Option.bind_fun_some]

end PluginKit.Path
