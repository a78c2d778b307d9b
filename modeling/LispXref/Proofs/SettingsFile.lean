-- What loading a file of settings does. Main statement: it sets exactly the variables of the
-- file that are not set.
import LispXref.Config.SettingsFile

namespace LispXref.Config

/-! ## Variables -/

namespace Environment

theorem get?_erase_of_ne (env : Environment) {name other : Text} (h : name ≠ other) :
    (env.erase name).get? other = env.get? other := by
  obtain ⟨bindings⟩ := env
  unfold erase get?
  induction bindings with
  | nil => rfl
  | cons v bindings ih =>
    obtain ⟨key, value⟩ := v
    by_cases hkey : key = name
    · have hother : (other == key) = false := beq_eq_false_iff_ne.2 fun ho => h (hkey.symm.trans ho.symm)
      rw [List.filter_cons_of_neg (by simp [hkey]), ih, List.lookup_cons, hother]
    · rw [List.filter_cons_of_pos (by simp [hkey]), List.lookup_cons, List.lookup_cons, ih]

theorem get?_insert (env : Environment) (name value other : Text) :
    (env.insert name value).get? other = if name = other then some value else env.get? other := by
  split
  · rename_i h
    subst h
    simp [insert, get?]
  · rename_i h
    have hother : (other == name) = false := beq_eq_false_iff_ne.2 (Ne.symm h)
    rw [← get?_erase_of_ne env h, insert, get?, List.lookup_cons, hother]
    rfl

theorem get?_insertNew (env : Environment) (name value other : Text) :
    (env.insertNew name value).get? other =
      (env.get? other).or (if name = other then some value else none) := by
  unfold insertNew
  split
  · rename_i h
    split
    · rename_i hname
      subst hname
      rw [Option.or_of_isSome h]
    · rw [Option.or_none]
  · rename_i h
    rw [get?_insert]
    split
    · rename_i hname
      subst hname
      rw [Option.not_isSome_iff_eq_none.1 h, Option.none_or]
    · rw [Option.or_none]

end Environment

namespace SettingsFile

/-! ## Bindings -/

/-- The value of a binding for a variable. -/
def Binding.valueFor? (name : Text) (b : Binding) : Option Text :=
  if b.name = name then b.value else none

theorem get?_insertBinding (env : Environment) (b : Binding) (name : Text) :
    (insertBinding env b).get? name = (env.get? name).or (b.valueFor? name) := by
  unfold insertBinding Binding.valueFor?
  split
  · rename_i v hv
    rw [Environment.get?_insertNew, hv]
  · rename_i hv
    rw [hv, ite_self, Option.or_none]

/-- A value that is set stays, and the first binding that gives one counts. -/
theorem get?_foldl_insertBinding (bs : List Binding) (env : Environment) (name : Text) :
    (bs.foldl insertBinding env).get? name =
      (env.get? name).or (bs.findSome? (Binding.valueFor? name)) := by
  induction bs generalizing env with
  | nil => rw [List.foldl_nil, List.findSome?_nil, Option.or_none]
  | cons b bs ih =>
    rw [List.foldl_cons, ih, get?_insertBinding, List.findSome?_cons, Option.or_assoc]
    cases b.valueFor? name with
    | none => rw [Option.none_or]
    | some v => rw [Option.some_or]

theorem findSome?_filter_of_none {α β : Type} {p : α → Bool} {f : α → Option β} {xs : List α}
    (h : ∀ x, p x = false → f x = none) : (xs.filter p).findSome? f = xs.findSome? f := by
  induction xs with
  | nil => rfl
  | cons x xs ih =>
    cases hx : p x with
    | true => rw [List.filter_cons_of_pos hx, List.findSome?_cons, List.findSome?_cons, ih]
    | false => rw [List.filter_cons_of_neg (by simp [hx]), List.findSome?_cons, h x hx, ih]

/-- Once a name is bound, its later bindings do not count, even if it has no value. -/
theorem findSome?_firstOfName (bs : List Binding) (name : Text) :
    (firstOfName bs).findSome? (Binding.valueFor? name) = valueOf? bs name := by
  induction bs with
  | nil => rfl
  | cons b bs ih =>
    rw [firstOfName, List.findSome?_cons, valueOf?]
    by_cases hname : b.name = name
    · have hothers : ((firstOfName bs).filter fun o => o.name ≠ b.name).findSome?
          (Binding.valueFor? name) = none := by
        rw [List.findSome?_eq_none_iff]
        intro o ho
        have hne := of_decide_eq_true (List.mem_filter.1 ho).2
        exact if_neg (hname ▸ hne)
      rw [List.find?_cons_of_pos (by simpa using hname), hothers, Binding.valueFor?, if_pos hname,
        Option.bind_some]
      cases b.value <;> rfl
    · have hothers : ((firstOfName bs).filter fun o => o.name ≠ b.name).findSome?
          (Binding.valueFor? name) = (firstOfName bs).findSome? (Binding.valueFor? name) := by
        refine findSome?_filter_of_none fun o ho => if_neg fun hoName => hname ?_
        rw [decide_eq_false_iff_not, Classical.not_not] at ho
        exact ho.symm.trans hoName
      rw [List.find?_cons_of_neg (by simpa using hname), hothers, ih, Binding.valueFor?, if_neg hname]
      rfl

/-- The loader sets exactly the variables of a file that are not set. -/
theorem setsMissing_loader : loader.SetsMissing := by
  intro env file name
  show (load env file).get? name = (env.get? name).or (given? env file name)
  unfold load given?
  rw [get?_foldl_insertBinding, findSome?_firstOfName]

end SettingsFile

end LispXref.Config
