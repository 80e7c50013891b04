import Mathlib

/-! Streams of messages that tell their own size.
A message type is given by the function that reads a size off the front of a list.
It delimits itself when more data behind the front does not change what was read.
-/
namespace Xtracepp.Library.Framing

variable {α : Type}

def slice (items : List α) (start count : Nat) : List α := (items.drop start).take count

theorem slice_append (items more : List α) (start count : Nat)
    (inside : start + count ≤ items.length) :
    slice (items ++ more) start count = slice items start count := by
  unfold slice
  rw [List.drop_append_of_le_length (by omega),List.take_append_of_le_length]
  rw [List.length_drop]
  omega

theorem slice_length (items : List α) (start count : Nat) (inside : start + count ≤ items.length) :
    (slice items start count).length = count := by
  simp only [slice,List.length_take,List.length_drop]
  omega

/-- Each message with its offset in the stream. -/
def spans : Nat → List (List α) → List (Nat × List α)
  | _,[] => []
  | start,message :: rest => (start,message) :: spans (start + message.length) rest

theorem spans_append (start : Nat) (front back : List (List α)) :
    spans start (front ++ back) = spans start front ++ spans (start + front.flatten.length) back := by
  induction front generalizing start with
  | nil => simp [spans]
  | cons message rest ih =>
    simp only [List.cons_append,spans,ih,List.flatten_cons,List.length_append,Nat.add_assoc]

/-- What is read off two fronts of one list is the same, if more data behind a front does
not change it. -/
theorem same_reading {β : Type} (reading : List α → Option β)
    (stable : ∀ items more value, reading items = some value → reading (items ++ more) = some value)
    {left right whole : List α} {first second : β} (one : reading left = some first)
    (other : reading right = some second) (before : left <+: whole) (after : right <+: whole) :
    first = second := by
  obtain ⟨leftRest,rfl⟩ := before
  obtain ⟨rightRest,same⟩ := after
  have extended := stable left leftRest first one
  have again := stable right rightRest second other
  rw [same] at again
  exact Option.some.inj (extended.symm.trans again)

theorem spans_succ {messages : List (List α)} {done : Nat} {message : List α}
    (next : messages[done]? = some message) (start : Nat) :
    spans start (messages.take (done + 1)) = spans start (messages.take done) ++
      [(start + (messages.take done).flatten.length,message)] := by
  rw [List.take_add_one,next,spans_append]
  rfl

theorem flatten_succ {messages : List (List α)} {done : Nat} {message : List α}
    (next : messages[done]? = some message) :
    (messages.take (done + 1)).flatten = (messages.take done).flatten ++ message := by
  rw [List.take_add_one,next]
  simp

/-- What follows the first messages of a front of the stream. -/
theorem rest_prefix {received : List α} {messages : List (List α)} (front : received <+: messages.flatten)
    (done : Nat) :
    received.drop (messages.take done).flatten.length <+: (messages.drop done).flatten := by
  have split : messages.flatten = (messages.take done).flatten ++ (messages.drop done).flatten := by
    rw [← List.flatten_append,List.take_append_drop]
  have dropped := front.drop (messages.take done).flatten.length
  rwa [split,List.drop_left] at dropped

/-- Data of a stream belong to its next message. -/
theorem next_message {unread : List α} {messages : List (List α)} {done : Nat}
    (front : unread <+: (messages.drop done).flatten) (filled : unread ≠ []) :
    ∃ message, messages[done]? = some message ∧
      unread <+: message ++ (messages.drop (done + 1)).flatten := by
  by_cases inside : done < messages.length
  · refine ⟨messages[done],List.getElem?_eq_getElem inside,?_⟩
    rwa [List.drop_eq_getElem_cons inside,List.flatten_cons] at front
  · rw [List.drop_of_length_le (by omega),List.flatten_nil,List.prefix_nil] at front
    contradiction

/-- The number of messages that lie wholly within the first `count` items. -/
def completed : List (List α) → Nat → Nat
  | [],_ => 0
  | message :: rest,count =>
    if message.length ≤ count then completed rest (count - message.length) + 1 else 0

theorem completed_between (messages : List (List α)) (done count : Nat)
    (within : (messages.take done).flatten.length ≤ count)
    (short : ∀ message ∈ messages[done]?, count < (messages.take done).flatten.length + message.length)
    (bound : done ≤ messages.length) : completed messages count = done := by
  induction messages generalizing done count with
  | nil =>
    have none : done = 0 := by simpa using bound
    simp [completed,none]
  | cons message rest ih =>
    cases done with
    | zero =>
      have missing := short message (by simp)
      simp only [List.take_zero,List.flatten_nil,List.length_nil,Nat.zero_add] at missing
      simp [completed,Nat.not_le.mpr missing]
    | succ done =>
      simp only [List.take_succ_cons,List.flatten_cons,List.length_append] at within short
      have first : message.length ≤ count := by omega
      rw [completed,if_pos first,ih done (count - message.length) (by omega) _ (by simpa using bound)]
      intro next member
      have missing := short next (by simpa using member)
      omega

/-- Messages that lie within the first `count` items are counted. -/
theorem le_completed (messages : List (List α)) (done count : Nat)
    (within : (messages.take done).flatten.length ≤ count) (bound : done ≤ messages.length) :
    done ≤ completed messages count := by
  induction messages generalizing done count with
  | nil =>
    have none : done = 0 := by simpa using bound
    omega
  | cons message rest ih =>
    cases done with
    | zero => exact Nat.zero_le _
    | succ done =>
      simp only [List.take_succ_cons,List.flatten_cons,List.length_append] at within
      rw [completed,if_pos (by omega)]
      exact Nat.succ_le_succ (ih done _ (by omega) (Nat.le_of_succ_le_succ bound))

end Xtracepp.Library.Framing
