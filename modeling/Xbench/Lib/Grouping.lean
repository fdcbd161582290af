import Mathlib.Data.List.Nodup
import Mathlib.Data.List.Pairwise
import Xbench.Lib.Dict
import Xbench.Lib.Effect

/-!
# Grouping by Keys

A list is put into a dictionary of buckets. Every item has a key. An item that
shares its key joins the others under it, in the order they come; an item that
stands alone takes its key for itself and drops what was there. Joining a
bucket that belongs to an item alone fails.

What happens under one key depends on the items with that key only.
`get?_groupFrom` cuts the fold over the dictionary into folds over one bucket,
and those are short: items that all share give their list, items that all
stand alone give the last, and a bucket where the two meet either fails or
loses the ones that share.

An item may be met several times. Whether the buckets hold every identity once
is decided by two things, which `grouped_once_iff` states: no key is both
shared and taken, and no identity that shares is met twice.

## Main definitions

* `Bucket`: What is under a key.
* `Bucket.put`: One item put there.
* `groupFrom`: A list put into a dictionary.
* `grouped`: The same, into the empty one.
* `contents`: The items of all buckets.
* `Once`: The buckets hold every identity once.

## Theorems

* `get?_groupFrom`: What happens under one key.
* `grouped_of_apart`: The buckets when no key is both shared and taken.
* `bucket_of_apart`: What is under an item's key then.
* `mem_bucket`: An item is under its own key.
* `grouped_once_iff`: When the buckets hold every identity once.
-/

namespace Xbench

/-- What is under a key: the items that share it, or the last that takes it. -/
inductive Bucket (α : Type) where
  | many (first : α) (rest : List α)
  | one (x : α)

variable {α ι κ χ : Type}

def Bucket.items : Bucket α → List α
  | .many x xs => x :: xs
  | .one x => [x]

section Fold

variable (key : α → κ) (alone : α → Bool) (clash : χ)

/-- One item put under its key. -/
def Bucket.put (b : Option (Bucket α)) (x : α) : Except χ (Bucket α) :=
  if alone x then .ok (.one x)
  else match b with
    | none => .ok (.many x [])
    | some (.many y ys) => .ok (.many y (ys ++ [x]))
    | some (.one _) => .error clash

theorem Bucket.put_alone (b : Option (Bucket α)) (x : α) (h : alone x = true) :
    Bucket.put alone clash b x = .ok (.one x) := by
  unfold put
  rw [if_pos h]

theorem Bucket.put_sharing (x y : α) (ys : List α) (h : alone x = false) :
    Bucket.put alone clash none x = .ok (.many x [])
      ∧ Bucket.put alone clash (some (.many y ys)) x = .ok (.many y (ys ++ [x]))
      ∧ Bucket.put alone clash (some (.one y)) x = .error clash := by
  have hx : ¬ alone x = true := by simp [h]
  unfold put
  rw [if_neg hx, if_neg hx, if_neg hx]
  exact ⟨rfl, rfl, rfl⟩

/-- Items with one key put there in order. -/
def Bucket.fill (b : Option (Bucket α)) (l : List α) : Except χ (Option (Bucket α)) :=
  l.foldlM (fun b x => (Bucket.put alone clash b x).map some) b

theorem Bucket.fill_cons (b b' : Option (Bucket α)) (x : α) (l : List α) :
    Bucket.fill alone clash b (x :: l) = .ok b'
      ↔ ∃ c, Bucket.put alone clash b x = .ok c ∧ Bucket.fill alone clash (some c) l = .ok b' := by
  rw [fill, List.foldlM_cons]
  constructor
  · intro h
    rcases except_bind_eq_ok _ _ _ h with ⟨_, hput, hrest⟩
    rcases except_map_eq_ok _ _ _ hput with ⟨c, hc, rfl⟩
    exact ⟨c, hc, hrest⟩
  · rintro ⟨c, hc, hrest⟩
    rw [hc]
    exact hrest

/-- Items that share make a list. -/
theorem Bucket.fill_sharing (x : α) (xs l : List α) (h : ∀ y ∈ l, alone y = false) :
    Bucket.fill alone clash (some (.many x xs)) l = .ok (some (.many x (xs ++ l))) := by
  induction l generalizing xs with
  | nil =>
      rw [List.append_nil]
      rfl
  | cons y l ih =>
      have hy : alone y = false := h y List.mem_cons_self
      refine (Bucket.fill_cons alone clash _ _ y l).mpr ⟨.many x (xs ++ [y]), ?_, ?_⟩
      · exact (Bucket.put_sharing alone clash y x xs hy).2.1
      · rw [ih _ (fun z hz => h z (List.mem_cons_of_mem y hz)), List.append_assoc]
        rfl

/-- Of items that stand alone the last stays. -/
theorem Bucket.fill_alone (b : Option (Bucket α)) (l : List α) (hl : l ≠ [])
    (h : ∀ y ∈ l, alone y = true) :
    ∃ y ∈ l, Bucket.fill alone clash b l = .ok (some (.one y)) := by
  induction l generalizing b with
  | nil => exact absurd rfl hl
  | cons x l ih =>
      have hput := Bucket.put_alone alone clash b x (h x List.mem_cons_self)
      by_cases hnil : l = []
      · subst hnil
        exact ⟨x, List.mem_cons_self, (Bucket.fill_cons alone clash b _ x []).mpr ⟨_, hput, rfl⟩⟩
      · rcases ih (some (.one x)) hnil (fun y hy => h y (List.mem_cons_of_mem x hy)) with
          ⟨y, hy, hfill⟩
        exact ⟨y, List.mem_cons_of_mem x hy,
          (Bucket.fill_cons alone clash b _ x l).mpr ⟨_, hput, hfill⟩⟩

/-- Once an item stands alone, no item that shares is in the bucket again. -/
theorem Bucket.fill_taken (b : Option (Bucket α)) (b' : Option (Bucket α)) (l : List α) (y : α)
    (hy : y ∈ l) (halone : alone y = true) (h : Bucket.fill alone clash b l = .ok b') :
    ∃ z ∈ l, alone z = true ∧ b' = some (.one z) := by
  induction l generalizing b y with
  | nil => exact absurd hy List.not_mem_nil
  | cons x l ih =>
      rcases (Bucket.fill_cons alone clash b b' x l).mp h with ⟨c, hput, hrest⟩
      by_cases hlater : ∃ z ∈ l, alone z = true
      · rcases hlater with ⟨z, hz, hzalone⟩
        rcases ih _ z hz hzalone hrest with ⟨w, hw, hwalone, hb'⟩
        exact ⟨w, List.mem_cons_of_mem x hw, hwalone, hb'⟩
      · -- `x` is the last that stands alone, and nothing can join it
        have hxy : y = x := by
          rcases List.mem_cons.mp hy with hyx | hyl
          · exact hyx
          · exact absurd ⟨y, hyl, halone⟩ hlater
        have hc : c = .one x := by
          rw [Bucket.put_alone alone clash b x (hxy ▸ halone)] at hput
          exact (Except.ok.inj hput).symm
        have hl : l = [] := by
          cases l with
          | nil => rfl
          | cons z l =>
              rcases (Bucket.fill_cons alone clash _ b' z l).mp hrest with ⟨c', hput', _⟩
              have hz : alone z = false := by
                by_contra hz
                exact hlater ⟨z, List.mem_cons_self, by simpa using hz⟩
              rw [hc, (Bucket.put_sharing alone clash z x [] hz).2.2] at hput'
              exact nomatch hput'
        subst hl
        refine ⟨x, List.mem_cons_self, hxy ▸ halone, ?_⟩
        rw [← hc]
        exact (Except.ok.inj hrest).symm

variable [DecidableEq κ]

/-- One item put into the dictionary. -/
def groupStep (d : Dict κ (Bucket α)) (x : α) : Except χ (Dict κ (Bucket α)) :=
  (Bucket.put alone clash (d.get? (key x)) x).map (d.set (key x))

/-- A list put into a dictionary. -/
def groupFrom (d : Dict κ (Bucket α)) (l : List α) : Except χ (Dict κ (Bucket α)) :=
  l.foldlM (groupStep key alone clash) d

def grouped (l : List α) : Except χ (Dict κ (Bucket α)) :=
  groupFrom key alone clash Dict.empty l

/-- The items with a key. -/
def withKey (l : List α) (k : κ) : List α :=
  l.filter (fun x => decide (key x = k))

theorem mem_withKey (l : List α) (k : κ) (x : α) : x ∈ withKey key l k ↔ x ∈ l ∧ key x = k := by
  rw [withKey, List.mem_filter, decide_eq_true_iff]

theorem withKey_cons_self (l : List α) (x : α) :
    withKey key (x :: l) (key x) = x :: withKey key l (key x) :=
  List.filter_cons_of_pos (decide_eq_true rfl)

theorem withKey_cons_other (l : List α) (k : κ) (x : α) (h : k ≠ key x) :
    withKey key (x :: l) k = withKey key l k :=
  List.filter_cons_of_neg (fun hk => h (of_decide_eq_true hk).symm)

theorem groupStep_ok (d d' : Dict κ (Bucket α)) (x : α) :
    groupStep key alone clash d x = .ok d'
      ↔ ∃ c, Bucket.put alone clash (d.get? (key x)) x = .ok c ∧ d' = d.set (key x) c := by
  rw [groupStep]
  constructor
  · intro h
    rcases except_map_eq_ok _ _ _ h with ⟨c, hc, rfl⟩
    exact ⟨c, hc, rfl⟩
  · rintro ⟨c, hc, rfl⟩
    rw [hc]
    rfl

/-- What happens under one key depends on the items with that key. -/
theorem get?_groupFrom (d d' : Dict κ (Bucket α)) (l : List α)
    (h : groupFrom key alone clash d l = .ok d') (k : κ) :
    Bucket.fill alone clash (d.get? k) (withKey key l k) = .ok (d'.get? k) := by
  induction l generalizing d with
  | nil => exact congrArg (fun e => Except.ok (Dict.get? e k)) (Except.ok.inj h)
  | cons x l ih =>
      rw [groupFrom, List.foldlM_cons] at h
      rcases except_bind_eq_ok _ _ _ h with ⟨d₁, hstep, hrest⟩
      rcases (groupStep_ok key alone clash d d₁ x).mp hstep with ⟨c, hput, rfl⟩
      have hrest' := ih _ hrest
      by_cases hk : k = key x
      · subst hk
        rw [withKey_cons_self]
        refine (Bucket.fill_cons alone clash _ _ x _).mpr ⟨c, hput, ?_⟩
        rw [Dict.get?_set_self] at hrest'
        exact hrest'
      · rw [withKey_cons_other key l k x hk]
        rw [Dict.get?_set_other _ _ _ _ hk] at hrest'
        exact hrest'

/-- Putting succeeds when it does under every key. -/
theorem groupFrom_ok (d : Dict κ (Bucket α)) (l : List α)
    (h : ∀ k, ∃ b, Bucket.fill alone clash (d.get? k) (withKey key l k) = .ok b) :
    ∃ d', groupFrom key alone clash d l = .ok d' := by
  induction l generalizing d with
  | nil => exact ⟨d, rfl⟩
  | cons x l ih =>
      rcases h (key x) with ⟨b, hb⟩
      rw [withKey_cons_self] at hb
      rcases (Bucket.fill_cons alone clash _ b x _).mp hb with ⟨c, hput, hfill⟩
      have hstep := (groupStep_ok key alone clash d _ x).mpr ⟨c, hput, rfl⟩
      have hrest : ∀ k, ∃ b, Bucket.fill alone clash ((d.set (key x) c).get? k) (withKey key l k)
          = .ok b := by
        intro k
        by_cases hk : k = key x
        · subst hk
          rw [Dict.get?_set_self]
          exact ⟨b, hfill⟩
        · rcases h k with ⟨b', hb'⟩
          rw [withKey_cons_other key l k x hk] at hb'
          rw [Dict.get?_set_other _ _ _ _ hk]
          exact ⟨b', hb'⟩
      rcases ih (d.set (key x) c) hrest with ⟨d', hd'⟩
      refine ⟨d', ?_⟩
      rw [groupFrom, List.foldlM_cons, hstep]
      exact hd'

/-- No key is both shared and taken. -/
def KeysApart (l : List α) : Prop :=
  ∀ x ∈ l, ∀ y ∈ l, alone x = false → alone y = true → key x ≠ key y

/-- The bucket of a key, when no key is both shared and taken. -/
theorem fill_of_apart (l : List α) (h : KeysApart key alone l) (x : α) (hx : x ∈ l) :
    ∃ b, Bucket.fill alone clash none (withKey key l (key x)) = .ok (some b)
      ∧ ((alone x = false ∧ b.items = withKey key l (key x))
        ∨ (alone x = true ∧ ∃ y ∈ withKey key l (key x), b = .one y)) := by
  have hx' : x ∈ withKey key l (key x) := (mem_withKey key l _ x).mpr ⟨hx, rfl⟩
  -- all of one key are alone, or none is
  cases halone : alone x with
  | false =>
      have hall : ∀ y ∈ withKey key l (key x), alone y = false := fun y hy => by
        rcases (mem_withKey key l _ y).mp hy with ⟨hyl, hyk⟩
        by_contra hy
        exact h x hx y hyl halone (by simpa using hy) hyk.symm
      generalize hys : withKey key l (key x) = ys at hx' hall
      cases ys with
      | nil => exact absurd hx' List.not_mem_nil
      | cons y ys =>
          have hy : alone y = false := hall y List.mem_cons_self
          refine ⟨.many y ys, (Bucket.fill_cons alone clash none _ y ys).mpr ⟨.many y [], ?_, ?_⟩,
            Or.inl ⟨rfl, rfl⟩⟩
          · exact (Bucket.put_sharing alone clash y y [] hy).1
          · exact Bucket.fill_sharing alone clash y [] ys
              (fun z hz => hall z (List.mem_cons_of_mem y hz))
  | true =>
      have hall : ∀ y ∈ withKey key l (key x), alone y = true := fun y hy => by
        rcases (mem_withKey key l _ y).mp hy with ⟨hyl, hyk⟩
        by_contra hy
        exact h y hyl x hx (by simpa using hy) halone hyk
      rcases Bucket.fill_alone alone clash none _ (List.ne_nil_of_mem hx') hall with ⟨y, hy, hfill⟩
      exact ⟨.one y, hfill, Or.inr ⟨rfl, y, hy, rfl⟩⟩

/-- What an item finds under its key in the end, when no key is both shared and
    taken. -/
theorem bucket_of_apart (l : List α) (d : Dict κ (Bucket α)) (hapart : KeysApart key alone l)
    (h : grouped key alone clash l = .ok d) (x : α) (hx : x ∈ l) :
    ∃ b, d.get? (key x) = some b
      ∧ ((alone x = false ∧ b.items = withKey key l (key x))
        ∨ (alone x = true ∧ ∃ y ∈ withKey key l (key x), b = .one y)) := by
  rcases fill_of_apart key alone clash l hapart x hx with ⟨b, hfill, hcases⟩
  have hfill' := get?_groupFrom key alone clash Dict.empty d l h (key x)
  exact ⟨b, Except.ok.inj (hfill'.symm.trans hfill), hcases⟩

theorem grouped_of_apart (l : List α) (h : KeysApart key alone l) :
    ∃ d, grouped key alone clash l = .ok d := by
  refine groupFrom_ok key alone clash Dict.empty l (fun k => ?_)
  by_cases hk : ∃ x ∈ l, key x = k
  · rcases hk with ⟨x, hx, rfl⟩
    rcases fill_of_apart key alone clash l h x hx with ⟨b, hb, _⟩
    exact ⟨some b, hb⟩
  · have hnil : withKey key l k = [] :=
      List.filter_eq_nil_iff.mpr (fun x hx hkx => hk ⟨x, hx, of_decide_eq_true hkx⟩)
    rw [hnil]
    exact ⟨none, rfl⟩

section Contents

/-- The items of all buckets. -/
def contents (d : Dict κ (Bucket α)) : List α :=
  d.values.flatMap Bucket.items

theorem mem_contents_iff (d : Dict κ (Bucket α)) (x : α) :
    x ∈ contents d ↔ ∃ k b, d.get? k = some b ∧ x ∈ b.items := by
  rw [contents, List.mem_flatMap]
  constructor
  · rintro ⟨b, hb, hx⟩
    rcases (Dict.mem_values_iff d b).mp hb with ⟨k, hk⟩
    exact ⟨k, b, hk, hx⟩
  · rintro ⟨k, b, hk, hx⟩
    exact ⟨b, (Dict.mem_values_iff d b).mpr ⟨k, hk⟩, hx⟩

/-- A bucket holds items with its key. -/
theorem Bucket.mem_of_fill (l : List α) (b b' : Option (Bucket α))
    (h : Bucket.fill alone clash b l = .ok b') (x : α) (c : Bucket α) (hb' : b' = some c)
    (hx : x ∈ c.items) : x ∈ l ∨ ∃ c', b = some c' ∧ x ∈ c'.items := by
  induction l generalizing b with
  | nil =>
      have hbb : b = b' := Except.ok.inj h
      exact Or.inr ⟨c, hbb.trans hb', hx⟩
  | cons y l ih =>
      rcases (Bucket.fill_cons alone clash b b' y l).mp h with ⟨c₁, hput, hrest⟩
      rcases ih _ hrest with hl | ⟨c', hc', hxc'⟩
      · exact Or.inl (List.mem_cons_of_mem y hl)
      · rw [← Option.some.inj hc'] at hxc'
        unfold Bucket.put at hput
        by_cases hy : alone y = true
        · rw [if_pos hy] at hput
          rw [← Except.ok.inj hput] at hxc'
          exact Or.inl (List.mem_singleton.mp hxc' ▸ List.mem_cons_self)
        · rw [if_neg hy] at hput
          rcases b with _ | ⟨z, zs⟩ | z
          · rw [← Except.ok.inj hput] at hxc'
            exact Or.inl (List.mem_singleton.mp hxc' ▸ List.mem_cons_self)
          · rw [← Except.ok.inj hput] at hxc'
            change x ∈ (z :: zs) ++ [y] at hxc'
            rcases List.mem_append.mp hxc' with hold | hnew
            · exact Or.inr ⟨_, rfl, hold⟩
            · exact Or.inl (List.mem_singleton.mp hnew ▸ List.mem_cons_self)
          · exact nomatch hput

/-- An item is under its own key. -/
theorem mem_bucket (l : List α) (d : Dict κ (Bucket α)) (h : grouped key alone clash l = .ok d)
    (k : κ) (b : Bucket α) (hb : d.get? k = some b) (x : α) (hx : x ∈ b.items) :
    x ∈ l ∧ key x = k := by
  have hfill := get?_groupFrom key alone clash Dict.empty d l h k
  rcases Bucket.mem_of_fill alone clash _ _ _ hfill x b hb hx with hmem | ⟨_, hnone, _⟩
  · exact (mem_withKey key l k x).mp hmem
  · exact nomatch hnone

/-- A bucket of several items holds none that stands alone. -/
theorem sharing_of_many (l : List α) (d : Dict κ (Bucket α))
    (h : grouped key alone clash l = .ok d) (k : κ) (x : α) (xs : List α)
    (hb : d.get? k = some (.many x xs)) (y : α) (hy : y ∈ x :: xs) : alone y = false := by
  by_contra halone
  have hy' : y ∈ withKey key l k :=
    (mem_withKey key l k y).mpr (mem_bucket key alone clash l d h k _ hb y hy)
  have hfill := get?_groupFrom key alone clash Dict.empty d l h k
  rcases Bucket.fill_taken alone clash _ _ _ y hy' (by simpa using halone) hfill with ⟨z, _, _, hz⟩
  rw [hb] at hz
  exact nomatch hz

end Contents

section Once

variable (ident : α → ι)

/-- The buckets hold every identity of the list once, and nothing else. -/
def Once (l : List α) (d : Dict κ (Bucket α)) : Prop :=
  ((contents d).map ident).Nodup ∧ ∀ a, a ∈ (contents d).map ident ↔ a ∈ l.map ident

/-- No identity that shares its key is met twice. -/
def SharedOnce (l : List α) : Prop :=
  l.Pairwise (fun x y => alone x = false → ident x ≠ ident y)

/-- The identity decides how an item is put, and among the items that stand
    alone the key decides the identity. -/
structure Identifies (key : α → κ) (alone : α → Bool) (ident : α → ι) (l : List α) : Prop where
  same : ∀ x ∈ l, ∀ y ∈ l, ident x = ident y → key x = key y ∧ alone x = alone y
  own : ∀ x ∈ l, ∀ y ∈ l, alone x = true → alone y = true → key x = key y → ident x = ident y

variable (l : List α)

/-- A bucket that holds every identity once does so of its own items. -/
theorem nodup_of_once (d : Dict κ (Bucket α)) (honce : Once ident l d) (k : κ) (b : Bucket α)
    (hb : d.get? k = some b) : (b.items.map ident).Nodup := by
  have hmem : b ∈ d.values := (Dict.mem_values_iff d b).mpr ⟨k, hb⟩
  have hnodup := honce.1
  rw [contents, List.map_flatMap] at hnodup
  exact (List.nodup_flatMap.mp hnodup).1 b hmem

theorem apart_of_once (d : Dict κ (Bucket α)) (hid : Identifies key alone ident l)
    (h : grouped key alone clash l = .ok d) (honce : Once ident l d) : KeysApart key alone l := by
  intro x hx y hy hxs hya hkey
  -- the bucket belongs to an item that stands alone, so `x` is nowhere
  have hfill := get?_groupFrom key alone clash Dict.empty d l h (key x)
  have hy' : y ∈ withKey key l (key x) := (mem_withKey key l _ y).mpr ⟨hy, hkey.symm⟩
  rcases Bucket.fill_taken alone clash _ _ _ y hy' hya hfill with ⟨z, _, hza, hz⟩
  have hident : ident x ∈ (contents d).map ident :=
    (honce.2 (ident x)).mpr (List.mem_map.mpr ⟨x, hx, rfl⟩)
  rcases List.mem_map.mp hident with ⟨w, hw, hwx⟩
  rcases (mem_contents_iff d w).mp hw with ⟨k, b, hb, hwb⟩
  rcases mem_bucket key alone clash l d h k b hb w hwb with ⟨hwl, hwk⟩
  rcases hid.same w hwl x hx hwx with ⟨hwkey, hwalone⟩
  rw [← hwk, hwkey, hz] at hb
  rw [← Option.some.inj hb] at hwb
  rw [List.mem_singleton.mp hwb, hza, hxs] at hwalone
  exact nomatch hwalone

theorem sharedOnce_of_once (d : Dict κ (Bucket α)) (hid : Identifies key alone ident l)
    (h : grouped key alone clash l = .ok d) (honce : Once ident l d) :
    SharedOnce alone ident l := by
  have hapart := apart_of_once key alone clash ident l d hid h honce
  refine List.pairwise_iff_forall_sublist.mpr (fun {x y} hsub hxs heq => ?_)
  have hx : x ∈ l := hsub.subset List.mem_cons_self
  have hy : y ∈ l := hsub.subset (List.mem_cons_of_mem x List.mem_cons_self)
  rcases fill_of_apart key alone clash l hapart x hx with ⟨b, hfill, hcases⟩
  have hget : d.get? (key x) = some b := by
    have hfill' := get?_groupFrom key alone clash Dict.empty d l h (key x)
    exact Except.ok.inj (hfill'.symm.trans hfill)
  rcases hcases with ⟨_, hitems⟩ | ⟨hxa, _⟩
  · have hnodup := nodup_of_once ident l d honce (key x) b hget
    have hpair : [x, y].Sublist (withKey key l (key x)) := by
      have hkey : key y = key x := (hid.same x hx y hy heq).1.symm
      have hkept : withKey key [x, y] (key x) = [x, y] := by
        rw [withKey_cons_self, ← hkey, withKey_cons_self]
        rfl
      rw [← hkept]
      exact hsub.filter _
    rw [hitems] at hnodup
    have hne := List.pairwise_iff_forall_sublist.mp (List.pairwise_map.mp hnodup) hpair
    exact hne heq
  · rw [hxa] at hxs
    exact nomatch hxs

theorem once_of_apart (d : Dict κ (Bucket α)) (hid : Identifies key alone ident l)
    (h : grouped key alone clash l = .ok d) (hapart : KeysApart key alone l)
    (hshared : SharedOnce alone ident l) : Once ident l d := by
  have hbucket := bucket_of_apart key alone clash l d hapart h
  refine ⟨?_, fun a => ⟨fun ha => ?_, fun ha => ?_⟩⟩
  · rw [contents, List.map_flatMap, List.nodup_flatMap]
    constructor
    · -- a bucket is one item, or the items that share one key
      intro b hb
      rcases (Dict.mem_values_iff d b).mp hb with ⟨k, hk⟩
      rcases hitems : b.items with _ | ⟨x, xs⟩
      · exact List.nodup_nil
      · have hxb : x ∈ b.items := hitems ▸ List.mem_cons_self
        rcases mem_bucket key alone clash l d h k b hk x hxb with ⟨hx, hxk⟩
        rcases hbucket x hx with ⟨b', hb', hcases⟩
        rw [hxk, hk] at hb'
        rcases hcases with ⟨hxs, hb''⟩ | ⟨_, y, _, hy⟩
        · rw [← Option.some.inj hb', hitems] at hb''
          rw [hb'', List.Nodup, List.pairwise_map]
          refine (hshared.filter _).imp_of_mem (fun {y z} hy _ hne => hne ?_)
          rcases (mem_withKey key l (key x) y).mp hy with ⟨hyl, hyk⟩
          by_contra hya
          exact hapart x hx y hyl hxs (by simpa using hya) hyk.symm
        · rw [← hitems, Option.some.inj hb', hy]
          exact List.nodup_singleton _
    · -- two buckets have different keys, and an identity has one key
      have hkeys : d.entries.Pairwise (fun e e' => e.1 ≠ e'.1) := List.pairwise_map.mp d.nodup
      rw [Dict.values, List.pairwise_map]
      refine hkeys.imp_of_mem (fun {e e'} he he' hne => ?_)
      intro a ha ha'
      rcases List.mem_map.mp ha with ⟨x, hx, rfl⟩
      rcases List.mem_map.mp ha' with ⟨y, hy, hxy⟩
      have hx' := mem_bucket key alone clash l d h e.1 e.2
        ((Dict.mem_entries_iff d e.1 e.2).mp he) x hx
      have hy' := mem_bucket key alone clash l d h e'.1 e'.2
        ((Dict.mem_entries_iff d e'.1 e'.2).mp he') y hy
      have hkey := (hid.same y hy'.1 x hx'.1 hxy).1
      rw [hx'.2, hy'.2] at hkey
      exact hne hkey.symm
  · rcases List.mem_map.mp ha with ⟨x, hx, rfl⟩
    rcases (mem_contents_iff d x).mp hx with ⟨k, b, hb, hxb⟩
    exact List.mem_map.mpr ⟨x, (mem_bucket key alone clash l d h k b hb x hxb).1, rfl⟩
  · rcases List.mem_map.mp ha with ⟨x, hx, rfl⟩
    rcases hbucket x hx with ⟨b, hb, ⟨_, hitems⟩ | ⟨hxa, y, hy, rfl⟩⟩
    · refine List.mem_map.mpr ⟨x, (mem_contents_iff d x).mpr ⟨key x, b, hb, ?_⟩, rfl⟩
      rw [hitems]
      exact (mem_withKey key l _ x).mpr ⟨hx, rfl⟩
    · rcases (mem_withKey key l _ y).mp hy with ⟨hyl, hyk⟩
      have hya : alone y = true := by
        by_contra hys
        exact hapart y hyl x hx (by simpa using hys) hxa hyk
      refine List.mem_map.mpr ⟨y, (mem_contents_iff d y).mpr ⟨key x, _, hb, List.mem_cons_self⟩, ?_⟩
      exact hid.own y hyl x hx hya hxa hyk

/-- When the buckets hold every identity once. -/
theorem grouped_once_iff (hid : Identifies key alone ident l) :
    (∃ d, grouped key alone clash l = .ok d ∧ Once ident l d)
      ↔ KeysApart key alone l ∧ SharedOnce alone ident l := by
  constructor
  · rintro ⟨d, h, honce⟩
    exact ⟨apart_of_once key alone clash ident l d hid h honce,
      sharedOnce_of_once key alone clash ident l d hid h honce⟩
  · rintro ⟨hapart, hshared⟩
    rcases grouped_of_apart key alone clash l hapart with ⟨d, h⟩
    exact ⟨d, h, once_of_apart key alone clash ident l d hid h hapart hshared⟩

end Once

end Fold

end Xbench
