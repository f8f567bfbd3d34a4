import BuzzerScript.Proofs.Maximum
import BuzzerScript.Timeline
import Mathlib.Data.List.Induction

/-!
# The end of a timeline

The end of a timeline is found event by event: the later one of the end so far and the end of
the next event, where an end that is NaN does not count.  What comes out is the least upper
bound of zero and of the ends that are numbers.  As a bound of a set it does not depend on the
order of the events, except for the sign of a zero, which a maximum leaves open.
-/

namespace BuzzerScript

open Binary64

/-! ## Ends -/

/-- The end of some events: not before zero nor before the end of any of them, and zero or the
end of one of them.  An end that is NaN does not count. -/
structure IsLastEnd (events : List SoundEvent) (time : Binary64) : Prop where
  nonneg : le 0 time
  finish_le : ∀ event ∈ events, event.finish.isNaN = false → event.finish.le time
  attained : time = 0 ∨ ∃ event ∈ events, event.finish = time

variable {events more : List SoundEvent} {time later m : Binary64}

theorem isLastEnd_nil : IsLastEnd [] 0 := ⟨zero_nonneg, by simp, .inl rfl⟩

/-- With more events the end is a bound of theirs as well that is not before the
end without them. -/
theorem IsLastEnd.extend (h : IsLastEnd events time) (hlater : time.le later)
    (hfinish : ∀ event ∈ more, event.finish.isNaN = false → event.finish.le later)
    (hattained : later = time ∨ later = 0 ∨ ∃ event ∈ more, event.finish = later) :
    IsLastEnd (events ++ more) later := by
  refine ⟨le_trans h.nonneg hlater, ?_, ?_⟩
  · intro event hevent hnumber
    rcases List.mem_append.mp hevent with hevent | hevent
    · exact le_trans (h.finish_le event hevent hnumber) hlater
    · exact hfinish event hevent hnumber
  · rcases hattained with rfl | hzero | ⟨event, hevent, hsame⟩
    · exact h.attained.imp_right fun ⟨event, hevent, hsame⟩ =>
        ⟨event, List.mem_append_left more hevent, hsame⟩
    · exact .inl hzero
    · exact .inr ⟨event, List.mem_append_right events hevent, hsame⟩

/-- One more event ends at its own end, or before the end of the others. -/
theorem IsLastEnd.append_singleton (h : IsLastEnd events time) {event : SoundEvent}
    (hmax : IsMaximum time event.finish later) : IsLastEnd (events ++ [event]) later := by
  refine h.extend (hmax.first_le (isNaN_of_nonneg h.nonneg)) ?_ ?_
  · intro other hother hnumber
    obtain rfl := List.mem_singleton.mp hother
    exact hmax.second_le hnumber
  · exact hmax.cases.imp_right fun hlater => .inr ⟨event, by simp, hlater.symm⟩

/-- What is found event by event is the end, whichever one of equal numbers is kept. -/
theorem isLastEnd_foldl {larger : Binary64 → Binary64 → Binary64}
    (hlarger : ∀ x y, IsMaximum x y (larger x y)) (events : List SoundEvent) :
    IsLastEnd events (events.foldl (fun latest event => larger latest event.finish) 0) := by
  induction events using List.reverseRecOn with
  | nil => exact isLastEnd_nil
  | append_singleton events event ih =>
    rw [List.foldl_append]
    exact ih.append_singleton (hlarger _ _)

theorem isLastEnd_endSeconds (events : List SoundEvent) :
    IsLastEnd events (endSeconds events) := isLastEnd_foldl isMaximum_max events

/-- More events do not end earlier. -/
theorem IsLastEnd.le_of_subset (h : IsLastEnd events time) (hmore : IsLastEnd more later)
    (hsubset : events ⊆ more) : time.le later := by
  rcases h.attained with rfl | ⟨event, hevent, rfl⟩
  · exact hmore.nonneg
  · exact hmore.finish_le event (hsubset hevent) (isNaN_of_nonneg h.nonneg)

/-- Two ends of the same events are the same number. -/
theorem IsLastEnd.sameNumber (h : IsLastEnd events time) (hmore : IsLastEnd more later)
    (hsame : ∀ event, event ∈ events ↔ event ∈ more) : SameNumber time later :=
  sameNumber_of_le (h.le_of_subset hmore fun event hevent => (hsame event).mp hevent)
    (hmore.le_of_subset h fun event hevent => (hsame event).mpr hevent)

/-- The later end of two lists is the end of both together. -/
theorem IsLastEnd.append (h : IsLastEnd events time) (hmore : IsLastEnd more later)
    (hmax : IsMaximum time later m) : IsLastEnd (events ++ more) m := by
  have hlater : later.le m := hmax.second_le (isNaN_of_nonneg hmore.nonneg)
  refine h.extend (hmax.first_le (isNaN_of_nonneg h.nonneg)) ?_ ?_
  · intro event hevent hnumber
    exact le_trans (hmore.finish_le event hevent hnumber) hlater
  · refine hmax.cases.imp_right fun hm => ?_
    subst hm
    exact hmore.attained

/-- **The end of a timeline**, for events of any times.  It is never NaN, and it is the least
number that is neither below zero nor below the sum of start and duration of any event where
that sum is not NaN: it is zero or one of these sums.  Up to the sign of zero it does not
depend on the order of the events, nor on which one of equal numbers a maximum keeps; two lists
together end with the one that ends later.  Rests may be what ends last. -/
theorem endSeconds_latest (events : List SoundEvent) :
    (endSeconds events).isNaN = false ∧ le 0 (endSeconds events) ∧
    (∀ event ∈ events, (event.start + event.duration).isNaN = false →
      (event.start + event.duration).le (endSeconds events)) ∧
    (endSeconds events = 0 ∨
      ∃ event ∈ events, endSeconds events = event.start + event.duration) ∧
    (∀ other : List SoundEvent, other.Perm events →
      SameNumber (endSeconds other) (endSeconds events)) ∧
    (∀ more : List SoundEvent,
      SameNumber (endSeconds (events ++ more)) ((endSeconds events).max (endSeconds more))) ∧
    (endSeconds (audible events)).le (endSeconds events) ∧
    ∀ larger : Binary64 → Binary64 → Binary64, (∀ x y, IsMaximum x y (larger x y)) →
      SameNumber (events.foldl (fun latest event => larger latest event.finish) 0)
        (endSeconds events) := by
  have hend := isLastEnd_endSeconds events
  refine ⟨isNaN_of_nonneg hend.nonneg, hend.nonneg, hend.finish_le, ?_, ?_, ?_, ?_, ?_⟩
  · exact hend.attained.imp_right fun ⟨event, hevent, hfinish⟩ => ⟨event, hevent, hfinish.symm⟩
  · intro other hperm
    exact (isLastEnd_endSeconds other).sameNumber hend fun event => hperm.mem_iff
  · intro more
    have hboth := hend.append (isLastEnd_endSeconds more) (isMaximum_max _ _)
    exact (isLastEnd_endSeconds (events ++ more)).sameNumber hboth fun event => Iff.rfl
  · exact (isLastEnd_endSeconds (audible events)).le_of_subset hend List.filter_sublist.subset
  · intro larger hlarger
    exact (isLastEnd_foldl hlarger events).sameNumber hend fun event => Iff.rfl

/-- An event without a time, one that ends at negative zero, and a rest that
ends at two seconds. -/
def untimedEvents : List SoundEvent :=
  [⟨invalid, 1, some 440, .sine, 1⟩, ⟨zero true, zero true, some 440, .sine, 1⟩,
    ⟨1, 1, none, .sine, 1⟩]

/-- The rest ends last, wherever it stands, and also where a maximum keeps the first one
of equal numbers. -/
theorem endSeconds_latest_untimed :
    (∀ event ∈ untimedEvents.tail, (event.start + event.duration).isNaN = false ∧
      (event.start + event.duration).le (endSeconds untimedEvents)) ∧
    endSeconds untimedEvents = 2 ∧
    SameNumber (endSeconds untimedEvents.reverse) (endSeconds untimedEvents) ∧
    SameNumber (untimedEvents.foldl (fun latest event => event.finish.max latest) 0)
      (endSeconds untimedEvents) := by
  obtain ⟨-, -, hfinish, -, hperm, -, -, hlarger⟩ := endSeconds_latest untimedEvents
  refine ⟨?_, by decide +kernel, hperm _ (List.reverse_perm _),
    hlarger (fun x y => y.max x) fun x y => (isMaximum_max y x).symm⟩
  intro event hevent
  have hnumber : (event.start + event.duration).isNaN = false := by
    revert event
    decide +kernel
  exact ⟨hnumber, hfinish event (List.mem_of_mem_tail hevent) hnumber⟩

end BuzzerScript
