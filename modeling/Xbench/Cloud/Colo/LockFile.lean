import Xbench.Lib.Text
import Xbench.Common

/-!
# The Colo Lock File

The file in which the colo cloud records which hosts are taken. Each line is
`<host>-<cluster>`. One writer appends lines; three readers test lines for a
substring, and one of them rewrites the file with the lines that fail the
test.

`render` is the format on the writer's side: the entries as they were meant.
`lines_render` says that the readers see exactly the written lines, because a
host name and a cluster name are each one line. What the readers then ask of
a line is another matter: `within_line_host` and `within_line_cluster` give
the answers they are right about, and nothing gives the converse.

## Main definitions

* `Entry`: A host and the cluster it is recorded for.
* `Entry.line`: The line that is written.
* `render`: The text of a list of entries.
* `lock`: Appending one line.
* `nodeIsLocked`: Does some line hold the host's name?
* `isRunning`: Does some line hold the cluster's name?
* `unlock`: The file without the lines that hold the cluster's name.

## Theorems

* `render_append`: The text of two lists in turn.
* `lines_render`: Reading the text gives the written lines.
* `within_line_host`: A line holds its own host.
* `within_line_cluster`: A line holds its own cluster.
* `nodeIsLocked_iff`: What the test for a host finds.
* `isRunning_iff`: What the test for a cluster finds.
* `unlock_render`: What unlocking leaves.
* `render_inj_length`: Equal texts have equally many entries.
-/

namespace Xbench

namespace Colo

open Text

/-- A host and the cluster it is recorded for. -/
structure Entry where
  host : HostName
  cluster : ClusterName
deriving DecidableEq

/-- `f"{host}-{cluster}"`. -/
def Entry.line (e : Entry) : String :=
  e.host.text ++ "-" ++ e.cluster.text

/-- The text of the entries, a line each. -/
def render (es : List Entry) : String :=
  writelines (es.map (fun e => e.line ++ "\n"))

/-- Append the line of one entry. -/
def lock (file : String) (e : Entry) : String :=
  file ++ (e.line ++ "\n")

/-- `_node_is_locked`. -/
def nodeIsLocked (file : String) (node : HostName) : Bool :=
  (readlines file).any (fun line => decide (Within node.text line))

/-- `Sproutsys.is_running`. -/
def isRunning (file : String) (cluster : ClusterName) : Bool :=
  (readlines file).any (fun line => decide (Within cluster.text line))

/-- The rewriting in `terminate_instances`: keep the lines that do not hold
    the cluster's name. -/
def unlock (file : String) (cluster : ClusterName) : String :=
  writelines ((readlines file).filter (fun line => !decide (Within cluster.text line)))

theorem render_nil : render [] = "" := rfl

theorem render_append (es es' : List Entry) : render (es ++ es') = render es ++ render es' := by
  rw [render, List.map_append, writelines_append]
  rfl

theorem lock_render (es : List Entry) (e : Entry) : lock (render es) e = render (es ++ [e]) := by
  have hone : render [e] = e.line ++ "\n" := by
    rw [← String.toList_inj, render, writelines, String.toList_join, List.map_singleton,
      List.flatMap_singleton]
  rw [render_append, hone]
  rfl

/-- A line holds no newline because neither name does. -/
theorem newline_notMem_line (e : Entry) : '\n' ∉ e.line.toList := by
  rw [Entry.line, String.toList_append, String.toList_append, List.mem_append, List.mem_append,
    not_or, not_or]
  exact ⟨⟨e.host.line, by decide⟩, e.cluster.newline_notMem⟩

theorem lines_render (es : List Entry) :
    readlines (render es) = es.map (fun e => e.line ++ "\n") := by
  have hlines : ∀ l ∈ es.map Entry.line, '\n' ∉ l.toList := by
    intro l hl
    rcases List.mem_map.mp hl with ⟨e, _, rfl⟩
    exact newline_notMem_line e
  have hread := readlines_writelines (es.map Entry.line) hlines
  rw [List.map_map] at hread
  exact hread

/-- A line holds its own host. -/
theorem within_line_host (e : Entry) : Within e.host.text e.line := by
  have h := within_append "" e.host.text ("-" ++ e.cluster.text)
  rw [String.empty_append, ← String.append_assoc] at h
  exact h

/-- A line holds its own cluster. -/
theorem within_line_cluster (e : Entry) : Within e.cluster.text e.line := by
  have h := within_append (e.host.text ++ "-") e.cluster.text ""
  rw [String.append_empty] at h
  exact h

/-- The test both readers make, on a written file. -/
theorem any_within_render (name : String) (es : List Entry) (h : '\n' ∉ name.toList) :
    (readlines (render es)).any (fun line => decide (Within name line)) = true
      ↔ ∃ e ∈ es, Within name e.line := by
  rw [lines_render, List.any_map, List.any_eq_true]
  constructor
  · rintro ⟨e, he, hw⟩
    exact ⟨e, he, (within_append_newline name e.line h).mp (decide_eq_true_iff.mp hw)⟩
  · rintro ⟨e, he, hw⟩
    exact ⟨e, he, decide_eq_true_iff.mpr ((within_append_newline name e.line h).mpr hw)⟩

theorem nodeIsLocked_iff (es : List Entry) (node : HostName) :
    nodeIsLocked (render es) node = true ↔ ∃ e ∈ es, Within node.text e.line :=
  any_within_render node.text es node.line

theorem isRunning_iff (es : List Entry) (cluster : ClusterName) :
    isRunning (render es) cluster = true ↔ ∃ e ∈ es, Within cluster.text e.line :=
  any_within_render cluster.text es cluster.newline_notMem

theorem unlock_render (es : List Entry) (cluster : ClusterName) :
    unlock (render es) cluster
      = render (es.filter (fun e => !decide (Within cluster.text e.line))) := by
  rw [unlock, lines_render, List.filter_map, render]
  congr 2
  refine List.filter_congr (fun e _ => ?_)
  have hiff := within_append_newline cluster.text e.line cluster.newline_notMem
  simp only [Function.comp_apply, hiff]

theorem render_inj_length (es es' : List Entry) (h : render es = render es') :
    es.length = es'.length := by
  have hlines := congrArg readlines h
  rw [lines_render, lines_render] at hlines
  have hlen := congrArg List.length hlines
  rw [List.length_map, List.length_map] at hlen
  exact hlen

end Colo

end Xbench
