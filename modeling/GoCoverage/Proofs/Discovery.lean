import GoCoverage.Discovery
import Mathlib.Data.List.Forall2
import Mathlib.Data.List.Induction
import Mathlib.Data.List.Nodup
import Mathlib.Data.List.Perm.Basic

/-! # Gathering in the order of discovery

Elements are looked up by a key, changed where they stand and added at the end when they are new.
So the keys of a list stay distinct, and they are in the order in which they were asked for first
(`map_changeOrAdd`).  While they are distinct a key is found at one place, and what is done there
alters no other element (`altersOnly_changeOrAdd`).

Gathering a whole list this way sorts its items into groups: there is one group for each key, in the
order of the first items, and a group is made from the items with its key in their order
(`foldl_changeOrAdd`).  Methods are gathered in classes, classes in packages and packages in a
report by the same law.  Whatever the key is, the groups together are the list in another order
(`perm_flatMap_filter`). -/

namespace GoCoverage

variable {α γ κ ρ : Type} [DecidableEq κ] [DecidableEq ρ]

/-! ## First occurrences -/

theorem removeAll_singleton (list : List κ) (a : κ) :
    [a].removeAll list = if a ∈ list then [] else [a] := by
  by_cases h : a ∈ list <;> simp [List.removeAll, h]

/-- What has occurred before is not listed again. -/
theorem eraseDups_concat (list : List κ) (a : κ) :
    (list ++ [a]).eraseDups = if a ∈ list then list.eraseDups else list.eraseDups ++ [a] := by
  rw [List.eraseDups_append, removeAll_singleton]
  split
  · rw [List.eraseDups_nil, List.append_nil]
  · rfl

theorem eraseDups_replicate_succ (n : Nat) (a : κ) :
    (List.replicate (n + 1) a).eraseDups = [a] := by
  induction n with
  | zero => rfl
  | succ n ih =>
    have known : a ∈ List.replicate (n + 1) a := List.mem_replicate.mpr ⟨n.succ_ne_zero, rfl⟩
    rw [List.replicate_succ', eraseDups_concat, if_pos known, ih]

theorem eraseDups_map_const (list : List α) (a : κ) :
    (list.map fun _ => a).eraseDups = if list.isEmpty then [] else [a] := by
  rw [List.map_const']
  cases list with
  | nil => rfl
  | cons _ list => exact eraseDups_replicate_succ list.length a

/-- What has occurred before can be left out. -/
theorem eraseDups_append_cons_of_mem {list : List κ} {a : κ} (known : a ∈ list) (rest : List κ) :
    (list ++ a :: rest).eraseDups = (list ++ rest).eraseDups := by
  have nothing : (a :: rest).removeAll list = rest.removeAll list := by
    simp [List.cons_removeAll, known]
  rw [List.eraseDups_append, List.eraseDups_append, nothing]

theorem nodup_eraseDups (list : List κ) : list.eraseDups.Nodup := by
  induction list using List.reverseRecOn with
  | nil => exact .nil
  | append_singleton list a ih =>
    rw [eraseDups_concat]
    split
    · exact ih
    · rename_i new
      refine List.Nodup.append ih (List.nodup_singleton a) ?_
      simpa using new

theorem eraseDups_of_nodup {list : List κ} (distinct : list.Nodup) : list.eraseDups = list := by
  induction list using List.reverseRecOn with
  | nil => rfl
  | append_singleton list a ih =>
    obtain ⟨distinct, _, apart⟩ := List.nodup_append.mp distinct
    have new : a ∉ list := fun member => apart a member a (List.mem_singleton_self a) rfl
    rw [eraseDups_concat, if_neg new, ih distinct]

theorem length_eraseDups_le (list : List κ) : list.eraseDups.length ≤ list.length := by
  induction list using List.reverseRecOn with
  | nil => exact Nat.le_refl 0
  | append_singleton list a ih =>
    rw [eraseDups_concat, List.length_append]
    split
    · exact Nat.le_add_right_of_le ih
    · rw [List.length_append]
      exact Nat.add_le_add_right ih 1

/-- A list that keeps its length has no repetitions. -/
theorem nodup_of_length_eraseDups {list : List κ} (h : list.eraseDups.length = list.length) :
    list.Nodup := by
  induction list using List.reverseRecOn with
  | nil => exact .nil
  | append_singleton list a ih =>
    rw [eraseDups_concat, List.length_append, List.length_singleton] at h
    split at h
    · have := length_eraseDups_le list
      omega
    · rename_i new
      rw [List.length_append, List.length_singleton] at h
      refine List.Nodup.append (ih (Nat.succ.inj h)) (List.nodup_singleton a) ?_
      simpa using new

/-- What has occurred before does not matter to what is made of a list in the order of first
occurrences. -/
theorem eraseDups_filterMap_eraseDups (f : κ → Option ρ) (list : List κ) :
    (list.eraseDups.filterMap f).eraseDups = (list.filterMap f).eraseDups := by
  induction list using List.reverseRecOn with
  | nil => rfl
  | append_singleton list a ih =>
    have same : ∀ b, b ∈ list.eraseDups.filterMap f ↔ b ∈ list.filterMap f := by
      intro b
      rw [← List.mem_eraseDups, ih, List.mem_eraseDups]
    rw [eraseDups_concat, List.filterMap_append]
    cases made : f a with
    | none =>
      split
      · simpa [made] using ih
      · simpa [List.filterMap_append, made] using ih
    | some b =>
      have single : [a].filterMap f = [b] := by simp [made]
      rw [single, eraseDups_concat]
      split
      · rename_i known
        rw [if_pos (List.mem_filterMap.mpr ⟨a, known, made⟩), ih]
      · rw [List.filterMap_append, single, eraseDups_concat, ih]
        simp only [same]

/-- Lists with the same first occurrences give lists with the same first occurrences. -/
theorem eraseDups_filterMap_congr {list other : List κ} (h : list.eraseDups = other.eraseDups)
    (f : κ → Option ρ) : (list.filterMap f).eraseDups = (other.filterMap f).eraseDups := by
  rw [← eraseDups_filterMap_eraseDups, h, eraseDups_filterMap_eraseDups]

theorem eraseDups_map_eraseDups (f : κ → ρ) (list : List κ) :
    (list.eraseDups.map f).eraseDups = (list.map f).eraseDups := by
  rw [← List.filterMap_eq_map]
  exact eraseDups_filterMap_eraseDups (some ∘ f) list

/-- What is made of different elements is different. -/
theorem eraseDups_map_of_injective {f : κ → ρ} {list : List κ}
    (injective : ∀ a ∈ list, ∀ b ∈ list, f a = f b → a = b) :
    (list.map f).eraseDups = list.eraseDups.map f := by
  rw [← eraseDups_map_eraseDups]
  refine eraseDups_of_nodup (List.Nodup.map_on ?_ (nodup_eraseDups list))
  intro a member b member'
  exact injective a (List.mem_eraseDups.mp member) b (List.mem_eraseDups.mp member')

theorem eraseDups_filter (p : κ → Bool) (list : List κ) :
    (list.filter p).eraseDups = list.eraseDups.filter p := by
  rw [← List.filterMap_eq_filter, ← eraseDups_filterMap_eraseDups, List.filterMap_eq_filter]
  exact eraseDups_of_nodup ((nodup_eraseDups list).filter p)

theorem perm_eraseDups {list other : List κ} (h : list.Perm other) :
    list.eraseDups.Perm other.eraseDups := by
  refine (List.perm_ext_iff_of_nodup (nodup_eraseDups list) (nodup_eraseDups other)).mpr ?_
  intro a
  rw [List.mem_eraseDups, List.mem_eraseDups, h.mem_iff]

/-- The first answer is given where an element occurs first. -/
theorem findSome?_eraseDups (f : κ → Option α) (list : List κ) :
    list.eraseDups.findSome? f = list.findSome? f := by
  induction list using List.reverseRecOn with
  | nil => rfl
  | append_singleton list a ih =>
    rw [eraseDups_concat, List.findSome?_append]
    split
    · rename_i known
      rw [ih]
      cases found : list.findSome? f with
      | some answer => rfl
      | none => simp [List.findSome?_eq_none_iff.mp found a known]
    · rw [List.findSome?_append, ih]

/-- Items that bring distinct elements of their own: the elements occur first where their items
do. -/
theorem eraseDups_flatMap {elements : ρ → List κ} {owner : κ → ρ}
    (owned : ∀ item, ∀ element ∈ elements item, owner element = item)
    (distinct : ∀ item, (elements item).Nodup) (items : List ρ) :
    (items.flatMap elements).eraseDups = items.eraseDups.flatMap elements := by
  induction items using List.reverseRecOn with
  | nil => rfl
  | append_singleton items item ih =>
    rw [List.flatMap_append, List.flatMap_singleton, List.eraseDups_append, ih, eraseDups_concat]
    split
    · -- its elements have been brought before
      rename_i known
      have none : (elements item).removeAll (items.flatMap elements) = [] := by
        rw [List.removeAll, List.filter_eq_nil_iff]
        intro element member
        simpa using ⟨item, known, member⟩
      rw [none, List.eraseDups_nil, List.append_nil]
    · -- no other item has brought any of its elements
      rename_i new
      have all : (elements item).removeAll (items.flatMap elements) = elements item := by
        rw [List.removeAll, List.filter_eq_self]
        intro element member
        simp only [List.elem_eq_mem, List.mem_flatMap, Bool.not_eq_eq_eq_not, Bool.not_true,
          decide_eq_false_iff_not, not_exists, not_and]
        intro other known member'
        exact new (owned item element member ▸ owned other element member' ▸ known)
      rw [all, eraseDups_of_nodup (distinct item), List.flatMap_append, List.flatMap_singleton]

/-- Items that bring no element that another brings: what an item brings twice is listed once. -/
theorem eraseDups_flatMap_of_disjoint {elements : α → List κ} {items : List α}
    (apart : items.Pairwise fun item other => (elements item).Disjoint (elements other)) :
    (items.flatMap elements).eraseDups = items.flatMap fun item => (elements item).eraseDups := by
  induction apart with
  | nil => rfl
  | @cons item items first _ ih =>
    have new : (items.flatMap elements).removeAll (elements item) = items.flatMap elements := by
      rw [List.removeAll, List.filter_eq_self]
      intro element member
      obtain ⟨other, isItem, member⟩ := List.mem_flatMap.mp member
      simpa using fun known => first other isItem known member
    rw [List.flatMap_cons, List.eraseDups_append, new, ih, List.flatMap_cons]

/-- Sorting a list by a key only changes its order. -/
theorem perm_flatMap_filter {key : α → κ} {keys : List κ} {list : List α} (distinct : keys.Nodup)
    (known : ∀ a ∈ list, key a ∈ keys) :
    (keys.flatMap fun k => list.filter (key · == k)).Perm list := by
  induction keys generalizing list with
  | nil =>
    rw [List.eq_nil_iff_forall_not_mem.mpr fun a member => List.not_mem_nil (known a member)]
    exact .nil
  | cons k keys ih =>
    obtain ⟨new, distinct⟩ := List.nodup_cons.mp distinct
    -- the elements with other keys are found among those that have not the first one
    have rest : (keys.flatMap fun k' => list.filter (key · == k')) =
        keys.flatMap fun k' => (list.filter (!key · == k)).filter (key · == k') := by
      refine List.flatMap_congr fun k' member => ?_
      rw [List.filter_filter]
      refine List.filter_congr fun a _ => ?_
      have other : k' ≠ k := fun same => new (same ▸ member)
      by_cases same : key a = k' <;> simp [same, other]
    rw [List.flatMap_cons, rest]
    refine (List.Perm.append_left _ (ih distinct fun a member => ?_)).trans
      (List.filter_append_perm (key · == k) list)
    obtain ⟨member, other⟩ := List.mem_filter.mp member
    exact (List.mem_cons.mp (known a member)).resolve_left (by simpa using other)

/-- Items that bring nothing can be left out. -/
theorem flatMap_eq_flatMap_filter {items : List α} {elements fruit : α → List γ} {bears : α → Bool}
    (each : ∀ item ∈ items, elements item = if bears item then fruit item else []) :
    items.flatMap elements = (items.filter bears).flatMap fruit := by
  induction items with
  | nil => rfl
  | cons item items ih =>
    rw [List.flatMap_cons, each item List.mem_cons_self,
      ih fun other member => each other (List.mem_cons_of_mem item member), List.filter_cons]
    split <;> rfl

/-- Filtering what items bring, if an item brings at most one thing that passes. -/
theorem filter_flatMap_eq_map {items : List α} {elements : α → List γ} {bears : α → Bool}
    {passes : γ → Bool} {fruit : α → γ}
    (each : ∀ item ∈ items,
      (elements item).filter passes = if bears item then [fruit item] else []) :
    (items.flatMap elements).filter passes = (items.filter bears).map fruit := by
  induction items with
  | nil => rfl
  | cons item items ih =>
    rw [List.flatMap_cons, List.filter_append, each item List.mem_cons_self,
      ih fun other member => each other (List.mem_cons_of_mem item member), List.filter_cons]
    split <;> rfl

/-- A list without repetitions has one element that is equal to a given one of its elements. -/
theorem filter_beq_of_nodup {list : List κ} (distinct : list.Nodup) {a : κ} (member : a ∈ list) :
    list.filter (· == a) = [a] := by
  rw [List.filter_beq, List.count_eq_one_of_mem distinct member, List.replicate_one]

/-! ## Looking up one key -/

section Lookup

variable {keyOf : γ → κ} {key : κ} {fresh : γ} {change : γ → γ}

/-- An element of the changed list is an old one, or the change of an old one or of a fresh one. -/
theorem mem_changeOrAdd {wanted : γ → Bool} {list : List γ} {a : γ}
    (h : a ∈ changeOrAdd wanted fresh change list) :
    a ∈ list ∨ (∃ b ∈ list, a = change b) ∨ a = change fresh := by
  induction list with
  | nil => exact .inr (.inr (List.mem_singleton.mp h))
  | cons b others ih =>
    rw [changeOrAdd] at h
    split at h
    · rcases List.mem_cons.mp h with rfl | h
      · exact .inr (.inl ⟨b, List.mem_cons_self, rfl⟩)
      · exact .inl (List.mem_cons_of_mem b h)
    · rcases List.mem_cons.mp h with rfl | h
      · exact .inl List.mem_cons_self
      · rcases ih h with old | ⟨c, member, rfl⟩ | rfl
        · exact .inl (List.mem_cons_of_mem b old)
        · exact .inr (.inl ⟨c, List.mem_cons_of_mem b member, rfl⟩)
        · exact .inr (.inr rfl)

/-- **A key that is known stays where it is, and a new one comes last.** -/
theorem map_changeOrAdd (ofFresh : keyOf fresh = key) (ofChange : ∀ a, keyOf (change a) = keyOf a)
    (list : List γ) :
    (changeOrAdd (fun a => keyOf a == key) fresh change list).map keyOf =
      if key ∈ list.map keyOf then list.map keyOf else list.map keyOf ++ [key] := by
  induction list with
  | nil => simp [changeOrAdd, ofChange, ofFresh]
  | cons a list ih =>
    by_cases h : keyOf a = key
    · simp [changeOrAdd, h, ofChange]
    · have h' : ¬ key = keyOf a := fun same => h same.symm
      simp only [changeOrAdd, beq_iff_eq, h, if_false, List.map_cons, ih, List.mem_cons, h',
        false_or]
      split <;> rfl

theorem nodup_map_changeOrAdd (keyOf : γ → κ) (key : κ) (ofFresh : keyOf fresh = key)
    (ofChange : ∀ a, keyOf (change a) = keyOf a) {list : List γ}
    (distinct : (list.map keyOf).Nodup) :
    ((changeOrAdd (fun a => keyOf a == key) fresh change list).map keyOf).Nodup := by
  rw [map_changeOrAdd ofFresh ofChange]
  split
  · exact distinct
  · rename_i new
    refine List.Nodup.append distinct (List.nodup_singleton key) ?_
    simpa using new

/-- Looking up a key in a list that has one element for each of some distinct keys. -/
theorem changeOrAdd_map {keys : List κ} (distinct : keys.Nodup) {element : κ → γ}
    (keyed : ∀ k ∈ keys, keyOf (element k) = k) :
    changeOrAdd (fun a => keyOf a == key) fresh change (keys.map element) =
      if key ∈ keys then keys.map fun k => if k = key then change (element k) else element k
      else keys.map element ++ [change fresh] := by
  induction keys with
  | nil => simp [changeOrAdd]
  | cons k keys ih =>
    obtain ⟨apart, distinct⟩ := List.nodup_cons.mp distinct
    have ih := ih distinct fun k' member => keyed k' (List.mem_cons_of_mem k member)
    by_cases h : k = key
    · subst h
      have others : keys.map element =
          keys.map fun k' => if k' = k then change (element k') else element k' := by
        refine List.map_congr_left fun k' member => ?_
        rw [if_neg fun same : k' = k => apart (same ▸ member)]
      simp [changeOrAdd, keyed, others]
    · have h' : ¬ key = k := fun same => h same.symm
      simp only [List.map_cons, changeOrAdd, keyed k List.mem_cons_self, beq_iff_eq, h, if_false,
        ih, List.mem_cons, h', false_or]
      split <;> rfl

end Lookup

/-! ## Looking up by place -/

/-- The list with a fresh element at the end, if it has none that is wanted, and the place of the
first element that is. -/
def lookUp (wanted : γ → Bool) (fresh : γ) (list : List γ) : List γ × Nat :=
  match list.findIdx? wanted with
  | some place => (list, place)
  | none => (list ++ [fresh], list.length)

/-- Looking up a key finds the very element that has it and changes nothing, or adds one fresh
element at the end. -/
structure LooksUp (keyOf : γ → κ) (key : κ) (fresh : γ) (list : List γ) (found : List γ × Nat) :
    Prop where
  known : ∀ (place : Nat) (a : γ), list[place]? = some a → keyOf a = key → found = (list, place)
  new : key ∉ list.map keyOf → found = (list ++ [fresh], list.length)

/-- What an operation on the element with a key alters in a list.  Elements stay where they are, and
those with other keys as they are. -/
structure AltersOnly (keyOf : γ → κ) (key : κ) (fresh : γ) (alters : γ → γ → Prop)
    (before after : List γ) : Prop where
  others : ∀ (place : Nat) (a : γ), before[place]? = some a → keyOf a ≠ key →
    after[place]? = some a
  named : ∀ (place : Nat) (a : γ), before[place]? = some a → keyOf a = key →
    ∃ b, after[place]? = some b ∧ alters a b
  /-- A known key adds nothing. -/
  known : key ∈ before.map keyOf → after.length = before.length
  /-- A new key adds one element, at the end. -/
  new : key ∉ before.map keyOf → ∃ b, after = before ++ [b] ∧ alters fresh b

section Place

variable {keyOf : γ → κ} {key : κ} {fresh : γ} {change : γ → γ} {list : List γ}

omit [DecidableEq κ] in
/-- What is changed by looking it up is changed at its place. -/
theorem changeOrAdd_eq_modify (wanted : γ → Bool) (fresh : γ) (change : γ → γ) (list : List γ) :
    changeOrAdd wanted fresh change list =
      (lookUp wanted fresh list).1.modify (lookUp wanted fresh list).2 change := by
  induction list with
  | nil => rfl
  | cons a list ih =>
    rw [changeOrAdd, lookUp, List.findIdx?_cons]
    split
    · rfl
    · rw [ih, lookUp]
      cases list.findIdx? wanted <;> rfl

omit [DecidableEq κ] in
/-- Looking up alone changes nothing, or adds a fresh element at the end. -/
theorem changeOrAdd_id (wanted : γ → Bool) (fresh : γ) (list : List γ) :
    changeOrAdd wanted fresh id list = if list.any wanted then list else list ++ [fresh] := by
  induction list with
  | nil => rfl
  | cons a list ih =>
    rw [changeOrAdd, ih, List.any_cons]
    cases wanted a
    · simp only [Bool.false_eq_true, if_false, Bool.false_or]
      split <;> rfl
    · rfl

/-- **Looking up finds the one element with a key**, if no two have the same. -/
theorem looksUp_lookUp (key : κ) (fresh : γ) (distinct : (list.map keyOf).Nodup) :
    LooksUp keyOf key fresh list (lookUp (keyOf · == key) fresh list) where
  known place a isElement hasKey := by
    obtain ⟨inside, rfl⟩ := List.getElem?_eq_some_iff.mp isElement
    have first : list.findIdx? (keyOf · == key) = some place := by
      rw [List.findIdx?_eq_some_iff_getElem]
      refine ⟨inside, by simpa using hasKey, fun i less same => ?_⟩
      have apart := List.pairwise_iff_getElem.mp (List.pairwise_map.mp distinct) i place
        (Nat.lt_trans less inside) inside less
      exact apart (by rw [hasKey]; simpa using same)
    rw [lookUp, first]
  new unknown := by
    have none : list.findIdx? (keyOf · == key) = none := by
      rw [List.findIdx?_eq_none_iff]
      intro a member
      simpa using fun same => unknown (List.mem_map.mpr ⟨a, member, same⟩)
    rw [lookUp, none]

/-- **A change of the element with a key alters nothing else.** -/
theorem altersOnly_changeOrAdd {alters : γ → γ → Prop} (distinct : (list.map keyOf).Nodup)
    (each : ∀ a ∈ list, alters a (change a)) (ofFresh : alters fresh (change fresh)) :
    AltersOnly keyOf key fresh alters list
      (changeOrAdd (keyOf · == key) fresh change list) := by
  by_cases isKnown : key ∈ list.map keyOf
  · obtain ⟨a, member, hasKey⟩ := List.mem_map.mp isKnown
    obtain ⟨there, isThere⟩ := List.mem_iff_getElem?.mp member
    have looksUp := looksUp_lookUp key fresh distinct
    have found := looksUp.known there a isThere hasKey
    rw [changeOrAdd_eq_modify, found]
    constructor
    · intro place b isElement other
      have elsewhere : there ≠ place := by
        rintro rfl
        cases isThere.symm.trans isElement
        exact other hasKey
      simp [elsewhere, isElement]
    · intro place b isElement same
      -- no other place has the key
      have isHere := found.symm.trans (looksUp.known place b isElement same)
      obtain rfl : there = place := congrArg Prod.snd isHere
      exact ⟨change b, by simp [isElement], each b (List.mem_of_getElem? isElement)⟩
    · exact fun _ => List.length_modify change list there
    · exact fun unknown => absurd isKnown unknown
  · have absent : ∀ a ∈ list, keyOf a ≠ key := fun a member same =>
      isKnown (List.mem_map.mpr ⟨a, member, same⟩)
    rw [changeOrAdd_of_none fun a member => by simpa using absent a member]
    constructor
    · intro place a isElement _
      rwa [List.getElem?_append_left (List.getElem?_eq_some_iff.mp isElement).1]
    · exact fun place a isElement same => absurd same (absent a (List.mem_of_getElem? isElement))
    · exact fun known => absurd known isKnown
    · exact fun _ => ⟨change fresh, rfl, ofFresh⟩

end Place

/-- **Looking up in two lists that are related element by element** finds elements that are related,
so the lists are still related after both have been changed. -/
theorem forall₂_changeOrAdd {related : α → γ → Prop} {wanted : α → Bool} {wanted' : γ → Bool}
    {fresh : α} {fresh' : γ} {change : α → α} {change' : γ → γ}
    (asked : ∀ a b, related a b → wanted a = wanted' b)
    (ofFresh : related (change fresh) (change' fresh'))
    (ofChange : ∀ a b, related a b → related (change a) (change' b)) {list : List α}
    {others : List γ} (h : List.Forall₂ related list others) :
    List.Forall₂ related (changeOrAdd wanted fresh change list)
      (changeOrAdd wanted' fresh' change' others) := by
  induction h with
  | nil => exact .cons ofFresh .nil
  | @cons a b list others first rest ih =>
    rw [changeOrAdd, changeOrAdd, asked a b first]
    split
    · exact .cons (ofChange a b first) rest
    · exact .cons first ih

/-! ## Gathering a list -/

omit [DecidableEq κ] in
/-- Adding items to a group does not change its key. -/
theorem keyOf_foldl (keyOf : γ → κ) {add : γ → α → γ}
    (ofAdd : ∀ group item, keyOf (add group item) = keyOf group) (items : List α) (group : γ) :
    keyOf (items.foldl add group) = keyOf group := by
  induction items generalizing group with
  | nil => rfl
  | cons item items ih => rw [List.foldl_cons, ih, ofAdd]

/-- **Gathering makes one group for each key**, in the order in which the keys occur first, and each
group from the items with its key, in their order. -/
theorem foldl_changeOrAdd (key : α → κ) (keyOf : γ → κ) (fresh : κ → γ) (add : γ → α → γ)
    (ofFresh : ∀ k, keyOf (fresh k) = k)
    (ofAdd : ∀ group item, keyOf (add group item) = keyOf group) (items : List α) :
    items.foldl
        (fun groups item =>
          changeOrAdd (fun group => keyOf group == key item) (fresh (key item)) (add · item) groups)
        [] =
      (items.map key).eraseDups.map fun k =>
        (items.filter (key · == k)).foldl add (fresh k) := by
  have keyed : ∀ (list : List α) (k : κ), keyOf (list.foldl add (fresh k)) = k :=
    fun list k => (keyOf_foldl keyOf ofAdd list (fresh k)).trans (ofFresh k)
  -- the items come one after the other, so the last one meets the groups of all others
  induction items using List.reverseRecOn with
  | nil => rfl
  | append_singleton items item ih =>
    rw [List.foldl_append, List.foldl_cons, List.foldl_nil, ih,
      changeOrAdd_map (nodup_eraseDups _) fun k _ => keyed _ k, List.map_append, List.map_singleton,
      eraseDups_concat]
    by_cases known : key item ∈ items.map key
    · -- the group of its key gets one more item, and no other group does
      rw [if_pos (List.mem_eraseDups.mpr known), if_pos known]
      refine List.map_congr_left fun k _ => ?_
      rw [List.filter_append, List.foldl_append]
      by_cases h : key item = k
      · simp [h]
      · have h' : ¬ k = key item := fun same => h same.symm
        simp [h, h']
    · -- it makes a group of its own, after all others
      rw [if_neg (known ∘ List.mem_eraseDups.mp), if_neg known, List.map_append,
        List.map_singleton]
      congr 1
      · refine List.map_congr_left fun k member => ?_
        have h : ¬ key item = k := fun same => known (same ▸ List.mem_eraseDups.mp member)
        simp [List.filter_append, h]
      · have none : items.filter (key · == key item) = [] := by
          rw [List.filter_eq_nil_iff]
          intro other member same
          exact known (List.mem_map.mpr ⟨other, member, by simpa using same⟩)
        simp [List.filter_append, none]

/-- What is said about a key in a list of items with keys, in its order. -/
def about (key : κ) (items : List (κ × α)) : List α :=
  (items.filter (·.1 == key)).map (·.2)

/-- What is done to the elements with several keys makes one element for each key. -/
theorem foldl_changeOrAdd_about (keyOf : γ → κ) (fresh : κ → γ) (add : γ → α → γ)
    (ofFresh : ∀ k, keyOf (fresh k) = k)
    (ofAdd : ∀ group a, keyOf (add group a) = keyOf group) (items : List (κ × α)) :
    items.foldl
        (fun groups item =>
          changeOrAdd (fun group => keyOf group == item.1) (fresh item.1) (add · item.2) groups)
        [] =
      (items.map (·.1)).eraseDups.map fun k => (about k items).foldl add (fresh k) := by
  have gathered := foldl_changeOrAdd (·.1) keyOf fresh
    (fun group (item : κ × α) => add group item.2) ofFresh (fun group item => ofAdd group item.2)
    items
  simpa only [about, List.foldl_map] using gathered

end GoCoverage
