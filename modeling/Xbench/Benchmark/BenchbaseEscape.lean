import Xbench.Lib.Escaping

/-!
# Escaping in the Configuration of Benchbase

The password of the database is written into a file of XML. What stands for
other things there is replaced by the entity of its own, one character after
the other, the ampersand first.

## Main definitions

* `escape`: `BenchbaseRunner.escape`.
* `entities`: The predefined entities.
* `unescape`: Every entity by its character, in one pass.
* `Escapes`: A text is safe, and stands for another.

## Theorems

* `toList_escape`: The five replacements are one pass.
* `escape_escapes`: An escaped text is safe and stands for the text.
-/

namespace Xbench

namespace Benchbase

open Escaping Text

/-- `BenchbaseRunner.escape`. -/
def escape (strXml : String) : String :=
  let strXml := replaceAll "&" "&amp;" strXml
  let strXml := replaceAll "<" "&lt;" strXml
  let strXml := replaceAll ">" "&gt;" strXml
  let strXml := replaceAll "\"" "&quot;" strXml
  let strXml := replaceAll "'" "&apos;" strXml
  strXml

/-- The predefined entities without the ampersand they begin with. -/
def entities : List (Char × List Char) :=
  [('&', ['a', 'm', 'p', ';']), ('<', ['l', 't', ';']), ('>', ['g', 't', ';']),
    ('"', ['q', 'u', 'o', 't', ';']), ('\'', ['a', 'p', 'o', 's', ';'])]

theorem entities_first : entities.head?.map Prod.fst = some '&' := rfl

theorem entities_distinct : (entities.map Prod.fst).Nodup := by
  decide

theorem entities_plain : ∀ e ∈ entities, ∀ e' ∈ entities, e'.1 ∉ e.2 := by
  decide

theorem entities_apart : ∀ e ∈ entities, ∀ e' ∈ entities, e.2 <+: e'.2 → e = e' := by
  decide

/-- The predefined entities. -/
def predefined : Codes :=
  ⟨'&', entities, entities_first, entities_distinct, entities_plain, entities_apart⟩

/-- Every entity by its character, from left to right. -/
def unescape (s : String) : String :=
  String.ofList (predefined.decode s.toList)

/-- A text without characters that stand for other things, in which every
    ampersand starts an entity, and that stands for a given one. -/
structure Escapes (s escaped : String) : Prop where
  safe : ∀ c ∈ escaped.toList, c ≠ '<' ∧ c ≠ '>' ∧ c ≠ '"' ∧ c ≠ '\''
  entity : ∀ pre post, escaped.toList = pre ++ '&' :: post →
    ∃ entity ∈ ["&amp;", "&lt;", "&gt;", "&quot;", "&apos;"], entity.toList <+: '&' :: post
  back : unescape escaped = s

/-- The five replacements are one pass. -/
theorem toList_escape (s : String) : (escape s).toList = predefined.encode s.toList := by
  have hstep : ∀ (e : Char × List Char) (old new t : String), old = String.singleton e.1 →
      new.toList = '&' :: e.2 → (replaceAll old new t).toList = substitute '&' t.toList e := by
    rintro e old new t rfl hnew
    rw [replaceAll_singleton, substitute, hnew]
  rw [← predefined.foldl_eq_encode]
  unfold escape
  dsimp only
  rw [hstep ('\'', ['a', 'p', 'o', 's', ';']) "'" _ _ rfl rfl,
    hstep ('"', ['q', 'u', 'o', 't', ';']) "\"" _ _ rfl rfl,
    hstep ('>', ['g', 't', ';']) ">" _ _ rfl rfl, hstep ('<', ['l', 't', ';']) "<" _ _ rfl rfl,
    hstep ('&', ['a', 'm', 'p', ';']) "&" _ _ rfl rfl]
  simp only [predefined, entities, List.foldl_cons, List.foldl_nil]

/-- An escaped text is safe and stands for the text. -/
theorem escape_escapes (s : String) : Escapes s (escape s) := by
  have hgone : ∀ c, c ∈ predefined.entries.map Prod.fst → c ≠ '&' → c ∉ (escape s).toList := by
    intro c hc hne
    rw [toList_escape]
    exact predefined.notMem_encode s.toList c hc hne
  refine ⟨fun c hc => ?_, fun pre post h => ?_, ?_⟩
  · refine ⟨?_, ?_, ?_, ?_⟩ <;> rintro rfl
    · exact hgone '<' (by decide) (by decide) hc
    · exact hgone '>' (by decide) (by decide) hc
    · exact hgone '"' (by decide) (by decide) hc
    · exact hgone '\'' (by decide) (by decide) hc
  · rw [toList_escape] at h
    rcases predefined.mark_starts_code s.toList pre post h with ⟨e, he, hpre⟩
    have hlisted : ∀ e ∈ entities,
        ∃ entity ∈ ["&amp;", "&lt;", "&gt;", "&quot;", "&apos;"], entity.toList = '&' :: e.2 := by
      decide
    rcases hlisted e he with ⟨entity, hentity, hcode⟩
    exact ⟨entity, hentity, hcode ▸ hpre⟩
  · rw [unescape, toList_escape, Codes.decode_encode, String.ofList_toList]

end Benchbase

end Xbench
