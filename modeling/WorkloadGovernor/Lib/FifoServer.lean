import Mathlib.Data.List.TakeDrop

universe u

/-- A server that serves what arrives one item at a time, in the order of arrival. -/
structure FifoServer (α : Type u) where
  arrived : List α
  finished : Nat
  finished_le : finished ≤ arrived.length

namespace FifoServer
variable {α : Type u}

def idle : FifoServer α := ⟨[], 0, Nat.le_refl 0⟩

def arrive (server : FifoServer α) (item : α) : FifoServer α where
  arrived := server.arrived ++ [item]
  finished := server.finished
  finished_le := by
    have before := server.finished_le
    rw [List.length_append]
    omega

def finish (server : FifoServer α) : FifoServer α :=
  if more : server.finished < server.arrived.length then ⟨server.arrived, server.finished + 1, more⟩ else server

/-- The item being served and those after it. -/
def waiting (server : FifoServer α) : List α := server.arrived.drop server.finished

/-- The items whose service has begun. -/
def started (server : FifoServer α) : List α := server.arrived.take (server.finished + 1)

variable (server : FifoServer α) (item : α)

@[simp] theorem arrived_arrive : (server.arrive item).arrived = server.arrived ++ [item] := rfl

@[simp] theorem finished_arrive : (server.arrive item).finished = server.finished := rfl

@[simp] theorem arrived_finish : server.finish.arrived = server.arrived := by
  unfold finish
  split <;> rfl

/-- A server is idle exactly when it has finished everything that arrived. -/
theorem waiting_eq_nil : server.waiting = [] ↔ server.finished = server.arrived.length := by
  have bound := server.finished_le
  rw [waiting, List.drop_eq_nil_iff]
  omega

theorem finished_finish : server.finish.finished = server.finished + if server.waiting = [] then 0 else 1 := by
  have bound := server.finished_le
  unfold finish
  split
  · rw [if_neg (mt server.waiting_eq_nil.mp (by omega))]
  · rw [if_pos (server.waiting_eq_nil.mpr (by omega)), Nat.add_zero]

/-- An idle server finishes nothing. -/
theorem finish_of_waiting_nil (done : server.waiting = []) : server.finish = server := by
  have all := server.waiting_eq_nil.mp done
  exact dif_neg (by omega)

/-- The item in service is the first that is not finished. -/
theorem head?_waiting : server.waiting.head? = server.arrived[server.finished]? := List.head?_drop

theorem waiting_arrive : (server.arrive item).waiting = server.waiting ++ [item] :=
  List.drop_append_of_le_length server.finished_le

theorem waiting_finish : server.finish.waiting = server.waiting.tail := by
  unfold finish
  split
  · exact List.tail_drop.symm
  · rename_i ended
    have none_left : server.waiting = [] := List.drop_eq_nil_iff.mpr (Nat.not_lt.mp ended)
    rw [none_left]
    rfl

/-- Each item that has arrived is under way, done, or behind the one being served. -/
theorem started_append_tail : server.started ++ server.waiting.tail = server.arrived := by
  rw [started, waiting, List.tail_drop, List.take_append_drop]

/-- An idle server has started everything that arrived. -/
theorem started_of_waiting_nil (done : server.waiting = []) : server.started = server.arrived := by
  have all := server.started_append_tail
  rw [done] at all
  simpa using all

/-- What arrives at an idle server is started at once. -/
theorem started_arrive : (server.arrive item).started = server.started ++ if server.waiting = [] then [item] else [] := by
  have bound := server.finished_le
  split
  · rename_i done
    have all := server.waiting_eq_nil.mp done
    rw [started_of_waiting_nil server done, started, arrived_arrive, finished_arrive]
    exact List.take_of_length_le (by simp [all])
  · rename_i busy
    have more := mt server.waiting_eq_nil.mpr busy
    rw [List.append_nil, started, arrived_arrive, finished_arrive]
    exact List.take_append_of_le_length (by omega)

/-- With the end of an item the next one that waits is started. -/
theorem started_finish : server.finish.started = server.started ++ server.waiting.tail.head?.toList := by
  have next := server.finish.started_append_tail
  have now := server.started_append_tail
  rw [waiting_finish, arrived_finish, ← now] at next
  cases rest : server.waiting.tail with
  | nil => simpa [rest] using next
  | cons item later =>
    rw [rest, List.tail_cons] at next
    have same : server.finish.started ++ later = server.started ++ [item] ++ later := by
      rw [next, List.append_assoc]
      rfl
    exact List.append_cancel_right same

end FifoServer
