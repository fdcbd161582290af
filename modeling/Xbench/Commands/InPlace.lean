import Xbench.Commands.Extending
import Xbench.Commands.Overrides
import Xbench.Lib.Unshared

/-!
# Extending in Place

A component is extended in place: the mappings of the file that are nested in its
parameters are changed where they are. On mappings that are not shared this is
the extension of one dictionary by another, so extending by one override after
the other shows the extension by their merge.

## Main definitions

* `treeOf`: A value of the command line as a tree.
* `Extras`: What the command line has for a component.

## Theorems

* `cellOf_shows`: A value shows its tree.
* `extendOwn_shows`: Extending a mapping that belongs to one place.
* `extender_changed`: Extending a mapping of the file.
* `foldl_changed`: Extending it by one override after the other.
* `extenders_in_place`: The same, by the merge of the overrides.
-/

namespace Xbench

mutual

/-- A value of the command line as a tree. Everything but a mapping is a leaf. -/
def treeOf : Value → Nested String Entry
  | .dict es => .node (treesOf es)
  | .none => .leaf (cellOf .none)
  | .bool b => .leaf (cellOf (.bool b))
  | .int n => .leaf (cellOf (.int n))
  | .str s => .leaf (cellOf (.str s))
  | .list items => .leaf (cellOf (.list items))

def treesOf : List (String × Value) → List (String × Nested String Entry)
  | [] => []
  | (k, v) :: es => (k, treeOf v) :: treesOf es

end

section Values

/-- Where there is no mapping, the value takes the place. -/
theorem placed_of_leaf (old : Option (Nested String Entry)) (u : Nested String Entry)
    (h : ∀ us, old ≠ some (.node us)) : Nested.placed old u = u := by
  cases old with
  | none => rfl
  | some t =>
      cases t with
      | leaf a => rfl
      | node us => exact absurd rfl (h us)

mutual

/-- A value shows its tree. -/
theorem cellOf_shows : ∀ (v : Value) (s : Objects), ShowsTree s (cellOf v) (treeOf v)
  | .dict es, s => (showsTree_node_iff s _ _).mpr ⟨rfl, fun k => entriesOf_shows es s k⟩
  | .none, s => showsTree_leaf s _ rfl
  | .bool _, s => showsTree_leaf s _ rfl
  | .int _, s => showsTree_leaf s _ rfl
  | .str _, s => showsTree_leaf s _ rfl
  | .list _, s => showsTree_leaf s _ rfl

theorem entriesOf_shows : ∀ (es : List (String × Value)) (s : Objects) (k : String),
    Option.Rel (ShowsTree s) ((entriesOf es).lookup k) ((treesOf es).lookup k)
  | [], _, _ => .none
  | (j, v) :: es, s, k => by
      rw [entriesOf, treesOf, List.lookup_cons, List.lookup_cons]
      cases k == j with
      | true => exact .some (cellOf_shows v s)
      | false => exact entriesOf_shows es s k

end

theorem showsTree_byValue (s s' : Objects) (x : Entry) (t : Nested String Entry) (hx : ByValue x)
    (h : ShowsTree s x t) : ShowsTree s' x t :=
  showsTree_frame s s' x t (fun _ n hq => absurd hq (follow_byValue_ne s x hx _ n)) h

theorem byValue_setEntries (key : String) (x : Entry) (es : List (String × Entry))
    (hes : ByValue (.own es : Entry)) (hx : ByValue x) :
    ByValue (.own (Dict.setEntries key x es) : Entry) := by
  cases hes with
  | own _ hmem =>
      refine .own _ (fun e he => ?_)
      induction es with
      | nil =>
          rw [List.mem_singleton.mp he]
          exact hx
      | cons e' es ih =>
          rw [List.forall_mem_cons] at hmem
          rw [Dict.setEntries] at he
          by_cases hkey : e'.1 = key
          · rw [if_pos hkey] at he
            rcases List.mem_cons.mp he with rfl | he
            · exact hx
            · exact hmem.2 e he
          · rw [if_neg hkey] at he
            rcases List.mem_cons.mp he with rfl | he
            · exact hmem.1
            · exact ih hmem.2 he

theorem rel_setEntries (s : Objects) (key : String) (x : Entry) (u : Nested String Entry)
    (es : List (String × Entry)) (ts : List (String × Nested String Entry))
    (h : ∀ k, Option.Rel (ShowsTree s) (es.lookup k) (ts.lookup k)) (hx : ShowsTree s x u)
    (k : String) :
    Option.Rel (ShowsTree s) ((Dict.setEntries key x es).lookup k)
      ((Dict.setEntries key u ts).lookup k) := by
  rw [Dict.lookup_setEntries, Dict.lookup_setEntries]
  by_cases hk : k = key
  · rw [if_pos hk, if_pos hk]
    exact .some hx
  · rw [if_neg hk, if_neg hk]
    exact h k

end Values

section Own

variable (s : Objects)

theorem extendOwnKey_leaf (base : List (String × Entry)) (ts : List (String × Nested String Entry))
    (hbase : ByValue (.own base : Entry))
    (h : ∀ k, Option.Rel (ShowsTree s) (base.lookup k) (ts.lookup k)) (key : String) (v : Value)
    (hv : treeOf v = .leaf (cellOf v))
    (hextend : extendOwnKey base key v = Dict.setEntries key (cellOf v) base) :
    ByValue (.own (extendOwnKey base key v) : Entry)
      ∧ ∀ k, Option.Rel (ShowsTree s) ((extendOwnKey base key v).lookup k)
          ((Nested.mergeKey ts key (treeOf v)).lookup k) := by
  have hshows := cellOf_shows v s
  rw [hv] at hshows
  rw [hextend, Nested.mergeKey_eq, hv, Nested.placed_leaf]
  exact ⟨byValue_setEntries key _ base hbase (cellOf_byValue v),
    rel_setEntries s key _ _ base ts h hshows⟩

mutual

/-- Extending a mapping that belongs to one place shows the merge. -/
theorem extendOwn_shows : ∀ (extra : List (String × Value)) (base : List (String × Entry))
    (ts : List (String × Nested String Entry)), ByValue (.own base : Entry) →
    (∀ k, Option.Rel (ShowsTree s) (base.lookup k) (ts.lookup k)) →
    ByValue (.own (extendOwn base extra) : Entry)
      ∧ ∀ k, Option.Rel (ShowsTree s) ((extendOwn base extra).lookup k)
          ((Nested.merge ts (treesOf extra)).lookup k)
  | [], base, ts, hbase, h => by
      rw [extendOwn, treesOf, Nested.merge]
      exact ⟨hbase, h⟩
  | (key, v) :: rest, base, ts, hbase, h => by
      rw [extendOwn, treesOf, Nested.merge]
      have hkey := extendOwnKey_shows v base ts hbase h key
      exact extendOwn_shows rest _ _ hkey.1 hkey.2

theorem extendOwnKey_shows : ∀ (v : Value) (base : List (String × Entry))
    (ts : List (String × Nested String Entry)), ByValue (.own base : Entry) →
    (∀ k, Option.Rel (ShowsTree s) (base.lookup k) (ts.lookup k)) → ∀ key : String,
    ByValue (.own (extendOwnKey base key v) : Entry)
      ∧ ∀ k, Option.Rel (ShowsTree s) ((extendOwnKey base key v).lookup k)
          ((Nested.mergeKey ts key (treeOf v)).lookup k)
  | .none, base, ts, hbase, h, key => extendOwnKey_leaf s base ts hbase h key .none rfl rfl
  | .bool b, base, ts, hbase, h, key => extendOwnKey_leaf s base ts hbase h key (.bool b) rfl rfl
  | .int n, base, ts, hbase, h, key => extendOwnKey_leaf s base ts hbase h key (.int n) rfl rfl
  | .str t, base, ts, hbase, h, key => extendOwnKey_leaf s base ts hbase h key (.str t) rfl rfl
  | .list items, base, ts, hbase, h, key =>
      extendOwnKey_leaf s base ts hbase h key (.list items) rfl rfl
  | .dict es, base, ts, hbase, h, key => by
      -- the mapping and the tree are set at the key together
      have hset : ∀ (x : Entry) (u : Nested String Entry), ByValue x → ShowsTree s x u →
          ByValue (.own (Dict.setEntries key x base) : Entry)
            ∧ ∀ k, Option.Rel (ShowsTree s) ((Dict.setEntries key x base).lookup k)
                ((Dict.setEntries key u ts).lookup k) := fun x u hx hu =>
        ⟨byValue_setEntries key x base hbase hx, rel_setEntries s key x u base ts h hu⟩
      have hrel := h key
      rw [extendOwnKey, Nested.mergeKey_eq]
      cases hx : base.lookup key with
      | none =>
          rw [hx] at hrel
          cases ht : ts.lookup key with
          | some u =>
              rw [ht] at hrel
              cases hrel
          | none => exact hset _ _ (cellOf_byValue _) (cellOf_shows _ s)
      | some x =>
          rw [hx] at hrel
          cases ht : ts.lookup key with
          | none =>
              rw [ht] at hrel
              cases hrel
          | some u =>
              rw [ht] at hrel
              have hshows : ShowsTree s x u := by
                cases hrel with
                | some hu => exact hu
              have hvalue : ByValue x := by
                cases hbase with
                | own _ hmem => exact hmem (key, x) (Dict.mem_of_lookup base key x hx)
              rcases mapping_of_showsTree s x u hshows with ⟨hmapping, us, rfl⟩ | ⟨hleaf, rfl⟩
              · cases x with
                | own inner =>
                    -- both sides go down
                    have hunder := extendOwn_shows es inner us hvalue
                      ((showsTree_node_iff s _ _).mp hshows).2
                    exact hset _ _ hunder.1 ((showsTree_node_iff s _ _).mpr ⟨rfl, hunder.2⟩)
                | ref n => cases hvalue
                | scalar a => cases hmapping
                | list items => cases hmapping
              -- there is no mapping to go down to, so the new one takes the place
              · rw [placed_of_leaf _ _ (fun us hus => by cases hus)]
                cases x with
                | own inner => cases hleaf
                | ref n => cases hleaf
                | scalar a => exact hset _ _ (cellOf_byValue _) (cellOf_shows _ s)
                | list items => exact hset _ _ (cellOf_byValue _) (cellOf_shows _ s)

end

end Own

section File

variable (s : Objects) (r : Nat) (ts : List (String × Nested String Entry))

/-- Setting a key to a value of the command line. -/
theorem changed_value (hs : Unshared s r) (hown : OwnByValue s)
    (hshows : ShowsTree s (.ref r) (.node ts)) (key : String) (v : Value)
    (hplaced : Nested.placed (ts.lookup key) (treeOf v) = treeOf v) :
    Changed s (s.write r key (cellOf v)) r (.node (Nested.mergeKey ts key (treeOf v))) := by
  rw [Nested.mergeKey_eq, hplaced]
  exact changed_write s r ts hs hown hshows key _ (cellOf_byValue v) _ (cellOf_shows v)

theorem extenderKey_changed_leaf (hs : Unshared s r) (hown : OwnByValue s)
    (hshows : ShowsTree s (.ref r) (.node ts)) (key : String) (v : Value)
    (hv : v.isDict = false) (htree : treeOf v = .leaf (cellOf v)) :
    Changed s (extenderKey s r key v) r (.node (Nested.mergeKey ts key (treeOf v))) := by
  rw [extenderKey_leaf s r key v hv]
  refine changed_value s r ts hs hown hshows key v ?_
  rw [htree, Nested.placed_leaf]

end File

mutual

/-- Extending a mapping of the file that is not shared shows the merge. -/
theorem extender_changed : ∀ (extra : List (String × Value)) (s : Objects) (r : Nat)
    (ts : List (String × Nested String Entry)), Unshared s r → OwnByValue s →
    ShowsTree s (.ref r) (.node ts) →
    Changed s (extender s r extra) r (.node (Nested.merge ts (treesOf extra)))
  | [], s, r, ts, _, hown, hshows => by
      rw [extender, treesOf, Nested.merge]
      exact changed_refl s r _ hown hshows
  | (key, v) :: rest, s, r, ts, hs, hown, hshows => by
      rw [extender, treesOf, Nested.merge]
      have hkey := extenderKey_changed v s r ts hs hown hshows key
      have hrest := extender_changed rest _ r _ (unshared_of_changed s _ r _ hs hkey) hkey.own
        hkey.shows
      exact changed_trans s _ _ r _ _ hkey hrest

theorem extenderKey_changed : ∀ (v : Value) (s : Objects) (r : Nat)
    (ts : List (String × Nested String Entry)), Unshared s r → OwnByValue s →
    ShowsTree s (.ref r) (.node ts) → ∀ key : String,
    Changed s (extenderKey s r key v) r (.node (Nested.mergeKey ts key (treeOf v)))
  | .none, s, r, ts, hs, hown, hshows, key =>
      extenderKey_changed_leaf s r ts hs hown hshows key .none rfl rfl
  | .bool b, s, r, ts, hs, hown, hshows, key =>
      extenderKey_changed_leaf s r ts hs hown hshows key (.bool b) rfl rfl
  | .int n, s, r, ts, hs, hown, hshows, key =>
      extenderKey_changed_leaf s r ts hs hown hshows key (.int n) rfl rfl
  | .str t, s, r, ts, hs, hown, hshows, key =>
      extenderKey_changed_leaf s r ts hs hown hshows key (.str t) rfl rfl
  | .list items, s, r, ts, hs, hown, hshows, key =>
      extenderKey_changed_leaf s r ts hs hown hshows key (.list items) rfl rfl
  | .dict es, s, r, ts, hs, hown, hshows, key => by
      have hset := changed_value s r ts hs hown hshows key (.dict es)
      have hrel : Option.Rel (ShowsTree s) ((s r).get? key) (ts.lookup key) :=
        ((showsTree_node_iff s _ ts).mp hshows).2 key
      rw [extenderKey]
      cases hx : (s r).get? key with
      | none =>
          rw [hx] at hrel
          refine hset (placed_of_leaf _ _ (fun us hus => ?_))
          rw [hus] at hrel
          cases hrel
      | some x =>
          rw [hx] at hrel
          cases ht : ts.lookup key with
          | none =>
              rw [ht] at hrel
              cases hrel
          | some u =>
              rw [ht] at hrel
              have hunder : ShowsTree s x u := by
                cases hrel with
                | some hu => exact hu
              rcases mapping_of_showsTree s x u hunder with ⟨hmapping, us, rfl⟩ | ⟨hleaf, rfl⟩
              · have hmerge : Nested.mergeKey ts key (treeOf (.dict es))
                    = Dict.setEntries key (.node (Nested.merge us (treesOf es))) ts := by
                  rw [Nested.mergeKey_eq, ht]
                  rfl
                rw [hmerge]
                cases x with
                | ref inner =>
                    -- the mapping of the file is changed where it is
                    have hinner := extender_changed es s inner us
                      (unshared_under s r hs key inner hx) hown hunder
                    exact changed_under s _ r ts hs hshows key inner hx _ hinner
                | own inner =>
                    have hvalue := hown r key inner hx
                    have hown' := extendOwn_shows s es inner us hvalue
                      ((showsTree_node_iff s _ us).mp hunder).2
                    have hnode : ShowsTree s (.own (extendOwn inner es))
                        (.node (Nested.merge us (treesOf es))) :=
                      (showsTree_node_iff s _ _).mpr ⟨rfl, hown'.2⟩
                    exact changed_write s r ts hs hown hshows key _ hown'.1 _
                      (fun s' => showsTree_byValue s s' _ _ hown'.1 hnode)
                | scalar a => cases hmapping
                | list items => cases hmapping
              · have hplaced := hset (placed_of_leaf _ _ (fun us hus => by
                  rw [ht] at hus
                  cases hus))
                cases x with
                | ref inner => cases hleaf
                | own inner => cases hleaf
                | scalar a => exact hplaced
                | list items => exact hplaced

end

/-- What the command line has for a component: a dictionary of Python. -/
structure Extras where
  entries : List (String × Value)
  distinct : (Nested.node (treesOf entries)).Distinct

def Extras.parameters (extra : Extras) : Extending.Parameters Entry :=
  ⟨treesOf extra.entries, extra.distinct⟩

section Run

/-- Extending in place by one after the other shows what extending the dictionary by
    one after the other gives. -/
theorem foldl_changed (s : Objects) (r : Nat) (base : Extending.Parameters Entry)
    (overrides : List Extras) (hs : Unshared s r) (hown : OwnByValue s)
    (hshows : ShowsTree s (.ref r) (.node base.entries)) :
    Changed s (overrides.foldl (fun s extra => extender s r extra.entries) s) r
      (.node ((overrides.map Extras.parameters).foldl Extending.extender base).entries) := by
  induction overrides generalizing s base with
  | nil => exact changed_refl s r _ hown hshows
  | cons extra overrides ih =>
      have hfirst := extender_changed extra.entries s r base.entries hs hown hshows
      have hrest := ih _ (Extending.extender base extra.parameters)
        (unshared_of_changed s _ r _ hs hfirst) hfirst.own hfirst.shows
      exact changed_trans s _ _ r _ _ hfirst hrest

/-- In a loaded file no mapping belongs to one place. -/
theorem ownByValue_document (doc : Document) : OwnByValue doc.objects :=
  fun n k entries h => absurd h (loaded_not_own doc n k entries)

/-- Extending a mapping of a loaded file by one after the other shows the extension by
    their merge. -/
theorem extenders_in_place (doc : Document) (r : Nat) (base : Extending.Parameters Entry)
    (overrides : List Extras) (hs : Unshared doc.objects r)
    (hshows : ShowsTree doc.objects (.ref r) (.node base.entries))
    (h : (overrides.map Extras.parameters).Pairwise Extending.Apart) :
    ShowsTree (overrides.foldl (fun s extra => extender s r extra.entries) doc.objects) (.ref r)
      (.node (Extending.extender base
        ((overrides.map Extras.parameters).foldl Extending.extender
          Extending.Parameters.empty)).entries) := by
  rw [← Extending.foldl_extender base _ h]
  exact (foldl_changed doc.objects r base overrides hs (ownByValue_document doc) hshows).shows

end Run

end Xbench
