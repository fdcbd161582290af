import Mathlib.Data.Rat.Floor
import Mathlib.Tactic.Linarith
import Mathlib.Tactic.NormNum

/-!
# Memory of the Databases

The settings that a server gets from the memory and the processors of its
machine. What is computed with floating-point numbers is computed with rationals
here.

Everything is rounded down to an even number, which is the greatest that is not
above what is rounded. So a setting is at least two just if what it is made from
is.

MariaDB gets what four gigabytes leave, however little that is; its sibling for
MySQL takes the larger of two shares and has something on every machine.

## Main definitions

* `roundDownToEven`: `round_down_to_even`.
* `bufferPoolSize`: The buffer pool of MariaDB.
* `finalizePostgresqlConf`: The settings of PostgreSQL.
* `SaneMemory`: The settings go together, and with the machine.

## Theorems

* `le_roundDownToEven_iff`: Rounding gives the greatest even number below.
* `mysqlBufferPoolSize_pos`: The sibling has a buffer pool on every machine.
* `saneMemory_iff`: On which machines the settings are sane.
-/

namespace Xbench

section Rounding

/-- `round_down_to_even`. -/
def roundDownToEven (f : ℚ) : Int :=
  let f := ⌊f⌋
  if f % 2 = 1 then f - 1 else f

theorem even_roundDownToEven (f : ℚ) : roundDownToEven f % 2 = 0 := by
  unfold roundDownToEven
  dsimp only
  by_cases h : ⌊f⌋ % 2 = 1
  · rw [if_pos h]
    omega
  · rw [if_neg h]
    omega

/-- Rounding gives the greatest even number that is not above. -/
theorem le_roundDownToEven_iff (k : Int) (f : ℚ) (hk : k % 2 = 0) :
    k ≤ roundDownToEven f ↔ (k : ℚ) ≤ f := by
  rw [← Int.le_floor]
  unfold roundDownToEven
  dsimp only
  by_cases h : ⌊f⌋ % 2 = 1
  · rw [if_pos h]
    omega
  · rw [if_neg h]

theorem roundDownToEven_le (f : ℚ) : (roundDownToEven f : ℚ) ≤ f :=
  (le_roundDownToEven_iff _ f (even_roundDownToEven f)).mp (Int.le_refl _)

/-- An even number is positive when it is at least two. -/
theorem roundDownToEven_pos_iff (f : ℚ) : 0 < roundDownToEven f ↔ 2 ≤ f := by
  have heven := even_roundDownToEven f
  have htwo := le_roundDownToEven_iff 2 f (by decide)
  rw [Int.cast_ofNat] at htwo
  rw [← htwo]
  omega

end Rounding

section Settings

/-- `buffer_pool_size` in `set_mariadb_config`. -/
def bufferPoolSize (memoryMb : Int) : Int :=
  roundDownToEven (min (4 / 5 * memoryMb) (memoryMb - 4 * 1024))

/-- `buffer_pool_size` of MySQL. -/
def mysqlBufferPoolSize (memoryMb : Int) : Int :=
  roundDownToEven (max (4 / 5 * memoryMb) (memoryMb - 10 * 1024))

/-- `startup_settings`. -/
structure StartupSettings where
  port : Int
  sharedBuffers : Int
  maxConnections : Int
  workMem : Int
  effectiveCacheSize : Int
  maxWorkerProcesses : Int
deriving DecidableEq

/-- The settings that `finalize_postgresql_conf` renders. -/
def finalizePostgresqlConf (port memoryMb nproc : Int) : StartupSettings :=
  let sharedBuffers := roundDownToEven (memoryMb / 4)
  let maxConnections := nproc * 8 + 10
  let maxConnections := if maxConnections < 256 then 256 + nproc else maxConnections
  { port := port
    sharedBuffers := sharedBuffers
    maxConnections := maxConnections
    workMem := roundDownToEven (sharedBuffers / maxConnections)
    effectiveCacheSize := roundDownToEven (memoryMb * (3 / 4))
    maxWorkerProcesses := nproc }

/-- The settings go together, and with the machine. -/
structure SaneMemory (memoryMb bufferPool : Int) (settings : StartupSettings) : Prop where
  poolEven : bufferPool % 2 = 0
  pool : 0 < bufferPool ∧ bufferPool < memoryMb
  shared : (settings.sharedBuffers : ℚ) ≤ memoryMb / 4
  workMem : 1 ≤ settings.workMem
  work : settings.workMem * settings.maxConnections ≤ settings.sharedBuffers
  connections : 256 ≤ settings.maxConnections
  cache : settings.effectiveCacheSize < memoryMb

end Settings

section Sane

/-- There is a buffer pool when four gigabytes leave one. -/
theorem bufferPoolSize_pos_iff (memoryMb : Int) :
    0 < bufferPoolSize memoryMb ↔ 4098 ≤ memoryMb := by
  rw [bufferPoolSize, roundDownToEven_pos_iff, le_min_iff]
  constructor
  · rintro ⟨_, h⟩
    have hcast : ((4098 : Int) : ℚ) ≤ memoryMb := by
      push_cast
      linarith
    exact Int.cast_le.mp hcast
  · intro h
    have hcast : ((4098 : Int) : ℚ) ≤ memoryMb := Int.cast_le.mpr h
    push_cast at hcast
    exact ⟨by linarith, by linarith⟩

theorem bufferPoolSize_lt (memoryMb : Int) : bufferPoolSize memoryMb < memoryMb := by
  have hle := (roundDownToEven_le (min (4 / 5 * memoryMb) (memoryMb - 4 * 1024))).trans
    (min_le_right _ _)
  rw [← bufferPoolSize] at hle
  have hcast : (bufferPoolSize memoryMb : ℚ) < memoryMb := by linarith
  exact Int.cast_lt.mp hcast

/-- The sibling has a buffer pool on every machine. -/
theorem mysqlBufferPoolSize_pos (memoryMb : Int) (h : 3 ≤ memoryMb) :
    0 < mysqlBufferPoolSize memoryMb ∧ mysqlBufferPoolSize memoryMb < memoryMb := by
  have hcast : ((3 : Int) : ℚ) ≤ memoryMb := Int.cast_le.mpr h
  push_cast at hcast
  constructor
  · rw [mysqlBufferPoolSize, roundDownToEven_pos_iff, le_max_iff]
    left
    linarith
  · have hle := roundDownToEven_le (max (4 / 5 * (memoryMb : ℚ)) (memoryMb - 10 * 1024))
    have hmax : max (4 / 5 * (memoryMb : ℚ)) (memoryMb - 10 * 1024) < memoryMb :=
      max_lt (by linarith) (by linarith)
    rw [← mysqlBufferPoolSize] at hle
    exact Int.cast_lt.mp (lt_of_le_of_lt hle hmax)

variable (port memoryMb nproc : Int)

/-- The number of connections, from the number of processors. -/
theorem maxConnections_eq :
    (finalizePostgresqlConf port memoryMb nproc).maxConnections
      = if nproc ≤ 30 then 256 + nproc else 8 * nproc + 10 := by
  unfold finalizePostgresqlConf
  dsimp only
  by_cases h : nproc ≤ 30
  · rw [if_pos h, if_pos (by omega)]
  · rw [if_neg h, if_neg (by omega)]
    omega

theorem maxConnections_ge (h : 1 ≤ nproc) :
    256 ≤ (finalizePostgresqlConf port memoryMb nproc).maxConnections := by
  rw [maxConnections_eq]
  by_cases hfew : nproc ≤ 30
  · rw [if_pos hfew]
    omega
  · rw [if_neg hfew]
    omega

/-- All connections together have the shared buffers. -/
theorem workMem_mul_le (h : 1 ≤ nproc) :
    (finalizePostgresqlConf port memoryMb nproc).workMem
        * (finalizePostgresqlConf port memoryMb nproc).maxConnections
      ≤ (finalizePostgresqlConf port memoryMb nproc).sharedBuffers := by
  have hconnections := maxConnections_ge port memoryMb nproc h
  generalize hsettings : finalizePostgresqlConf port memoryMb nproc = settings at hconnections ⊢
  have hpos : (0 : ℚ) < settings.maxConnections := by
    exact Int.cast_pos.mpr (by omega)
  have hle : (settings.workMem : ℚ) ≤ settings.sharedBuffers / settings.maxConnections := by
    rw [← hsettings]
    exact roundDownToEven_le _
  have hmul := (le_div_iff₀ hpos).mp hle
  exact_mod_cast hmul

/-- A connection has memory when eight times as many megabytes are there. -/
theorem workMem_pos_iff (h : 1 ≤ nproc) :
    1 ≤ (finalizePostgresqlConf port memoryMb nproc).workMem ↔
      8 * (finalizePostgresqlConf port memoryMb nproc).maxConnections ≤ memoryMb := by
  have hconnections := maxConnections_ge port memoryMb nproc h
  have hwork : (finalizePostgresqlConf port memoryMb nproc).workMem
      = roundDownToEven ((roundDownToEven (memoryMb / 4) : ℚ)
        / (finalizePostgresqlConf port memoryMb nproc).maxConnections) := rfl
  rw [hwork]
  generalize (finalizePostgresqlConf port memoryMb nproc).maxConnections = connections
    at hconnections ⊢
  have hpos : (0 : ℚ) < connections := Int.cast_pos.mpr (by omega)
  have hshared := le_roundDownToEven_iff (2 * connections) (memoryMb / 4) (by omega)
  calc 1 ≤ roundDownToEven ((roundDownToEven (memoryMb / 4) : ℚ) / connections)
      ↔ (2 : ℚ) ≤ (roundDownToEven (memoryMb / 4) : ℚ) / connections := by
        rw [← roundDownToEven_pos_iff]
        omega
    _ ↔ 2 * connections ≤ roundDownToEven (memoryMb / 4) := by
        rw [le_div_iff₀ hpos]
        exact_mod_cast Iff.rfl
    _ ↔ 8 * connections ≤ memoryMb := by
        rw [hshared, le_div_iff₀ (by norm_num)]
        push_cast
        rw [show (2 * (connections : ℚ)) * 4 = ((8 * connections : Int) : ℚ) by push_cast; ring]
        exact Int.cast_le

/-- On which machines the settings are sane: four gigabytes and a little, and
    sixty-four megabytes for each processor. -/
theorem saneMemory_iff (h : 1 ≤ nproc) :
    SaneMemory memoryMb (bufferPoolSize memoryMb) (finalizePostgresqlConf port memoryMb nproc) ↔
      4098 ≤ memoryMb ∧ 64 * nproc + 80 ≤ memoryMb := by
  have hwork := workMem_pos_iff port memoryMb nproc h
  rw [maxConnections_eq] at hwork
  constructor
  · intro hsane
    have hmemory := (bufferPoolSize_pos_iff memoryMb).mp hsane.pool.1
    have hconnections := hwork.mp hsane.workMem
    refine ⟨hmemory, ?_⟩
    -- beyond thirty processors the connections grow by eight with each
    by_cases hfew : nproc ≤ 30
    · omega
    · rw [if_neg hfew] at hconnections
      omega
  · rintro ⟨hmemory, hprocessors⟩
    refine ⟨even_roundDownToEven _, ⟨(bufferPoolSize_pos_iff memoryMb).mpr hmemory,
      bufferPoolSize_lt memoryMb⟩, roundDownToEven_le _, hwork.mpr ?_,
      workMem_mul_le port memoryMb nproc h, maxConnections_ge port memoryMb nproc h, ?_⟩
    · by_cases hfew : nproc ≤ 30
      · rw [if_pos hfew]
        omega
      · rw [if_neg hfew]
        omega
    · have hle : ((finalizePostgresqlConf port memoryMb nproc).effectiveCacheSize : ℚ)
          ≤ memoryMb * (3 / 4) := roundDownToEven_le _
      have hpos : ((4098 : Int) : ℚ) ≤ memoryMb := Int.cast_le.mpr hmemory
      push_cast at hpos
      have hlt : ((finalizePostgresqlConf port memoryMb nproc).effectiveCacheSize : ℚ)
          < memoryMb := by linarith
      exact Int.cast_lt.mp hlt

/-- A machine with eight gigabytes and two processors. -/
theorem saneMemory_eightGigabytes :
    SaneMemory 8192 (bufferPoolSize 8192) (finalizePostgresqlConf 5432 8192 2) :=
  (saneMemory_iff 5432 8192 2 (by decide)).mpr (by decide)

/-- A machine with one gigabyte. -/
theorem small_insane :
    ¬ ∀ port memoryMb nproc : Int, memoryMb % 2 = 0 → 1024 ≤ memoryMb → 1 ≤ nproc →
      SaneMemory memoryMb (bufferPoolSize memoryMb)
        (finalizePostgresqlConf port memoryMb nproc) := by
  intro hall
  have hpool := (hall 5432 1024 1 (by decide) (by decide) (by decide)).pool.1
  exact absurd ((bufferPoolSize_pos_iff 1024).mp hpool) (by decide)

end Sane

end Xbench
