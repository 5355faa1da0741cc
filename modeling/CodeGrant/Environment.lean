/-! # The environment

The environment of a program is a list of texts `name=value`.  A variable is looked up
by its name and the equals sign behind it, so where a name itself holds an equals sign,
an entry can be found under a shorter name too, with the rest of its name in front of
its value.

The main statement is `value?_eq_lookup`: among names without equals signs this is the
plain look-up. -/

namespace CodeGrant

/-- The variables that are set, each with its name and its value. -/
abbrev Environment := List (String × String)

namespace Environment

/-- What stands behind a name and an equals sign in an entry, if it starts so. -/
def behindName? : List Char → List Char → Option (List Char)
  | [], '=' :: value => some value
  | c :: name, d :: entry => if c = d then behindName? name entry else none
  | _, _ => none

/-- The value of a variable; nothing is found without a name. -/
def value? (env : Environment) (name : String) : Option String :=
  if name = "" then none
  else env.findSome? fun entry =>
    (behindName? name.toList (entry.1.toList ++ '=' :: entry.2.toList)).map String.ofList

/-- The environment with one more variable, unless that is set. -/
def setDefault (env : Environment) (name value : String) : Environment :=
  if (env.value? name).isSome then env else env ++ [(name, value)]

/-- An entry without an equals sign in its name is found under that name only. -/
theorem behindName?_append {name entry : List Char} (hn : '=' ∉ name) (he : '=' ∉ entry)
    (value : List Char) :
    behindName? name (entry ++ '=' :: value) = if name = entry then some value else none := by
  induction name generalizing entry with
  | nil =>
    cases entry with
    | nil => simp [behindName?]
    | cons d entry =>
      have hd : d ≠ '=' := fun h => he (by simp [h])
      simp [behindName?, hd]
  | cons c name ih =>
    have hc : c ≠ '=' := fun h => hn (by simp [h])
    cases entry with
    | nil => simp [behindName?, hc]
    | cons d entry =>
      have hn' : '=' ∉ name := fun h => hn (by simp [h])
      have he' : '=' ∉ entry := fun h => he (by simp [h])
      by_cases h : c = d
      · subst h
        simpa [behindName?] using ih hn' he'
      · simp [behindName?, h]

/-- **Among names without equals signs a variable has the value of the first entry of its
name.** -/
theorem value?_eq_lookup (env : Environment) {name : String} (h : name ≠ "")
    (hn : '=' ∉ name.toList) (he : ∀ entry ∈ env, '=' ∉ entry.1.toList) :
    env.value? name = env.lookup name := by
  rw [value?, if_neg h]
  induction env with
  | nil => rfl
  | cons entry env ih =>
    obtain ⟨entryName, value⟩ := entry
    have hm : '=' ∉ entryName.toList := he (entryName, value) (by simp)
    rw [List.findSome?_cons, behindName?_append hn hm]
    by_cases hc : name = entryName
    · subst hc
      simp
    · have hl : name.toList ≠ entryName.toList := fun h => hc (String.toList_injective h)
      simp only [hl, if_false, Option.map_none, List.lookup_cons, beq_false_of_ne hc]
      exact ih fun entry h => he entry (by simp [h])

example : value? [("A", "B=C")] "A" = some "B=C" ∧ value? [("A", "B=C")] "A=B" = some "C" := by
  decide +kernel
example : value? [("A=", "1"), ("A", "2")] "A" = some "=1" := by decide +kernel

end Environment

end CodeGrant
