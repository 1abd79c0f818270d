import Mavlink.Link.Receive
import Mavlink.Proofs.Link.Candidate

/-!
# Chunks do not matter

A reader drops noise and waits for missing bytes before it has seen all of a stream. This module
proves that no such decision depends on how the stream was cut: bytes that arrive later can
complete what is incomplete, but they change nothing that was rejected or accepted before them.

The invariant is what is still to come: the frames in the buffered bytes followed by the bytes not
yet received. A call hands out a first part of these frames and keeps the rest to come.

## Main results

* `Link.drain_append`: draining more bytes goes on where draining the first ones ended.
* `Reader.run_to_come`: the invariant of every sequence of calls.
* `Reader.reading_ignores_chunks`: a stream yields the same frames however it is cut, and however
  receiving and reading are interleaved.
-/

namespace Mavlink

namespace Link

/-! ### All frames -/

/-- Draining ends with the first scan that finds no frame. -/
theorem drain_of_scan_none {l : Link} {b rest : Bytes} (h : l.scan b = (none, rest)) :
    l.drain b = ([], rest) := by
  rw [drain]
  split
  · next hscan =>
    rw [h] at hscan
    obtain ⟨-, rfl⟩ := Prod.mk.injEq .. ▸ hscan
    rfl
  · next hscan =>
    rw [h] at hscan
    simp at hscan

/-- Draining goes on behind each frame that a scan finds. -/
theorem drain_of_scan_some {l : Link} {b rest : Bytes} {f : Frame}
    (h : l.scan b = (some f, rest)) :
    l.drain b = (f :: (l.drain rest).1, (l.drain rest).2) := by
  rw [drain]
  split
  · next hscan =>
    rw [h] at hscan
    simp at hscan
  · next hscan =>
    rw [h, Prod.mk.injEq, Option.some.injEq] at hscan
    obtain ⟨rfl, rfl⟩ := hscan
    rfl

/-- All frames in the bytes are determined by the first scan. -/
theorem drain_congr {l : Link} {b c : Bytes} (h : l.scan b = l.scan c) :
    l.drain b = l.drain c := by
  cases hscan : l.scan c with
  | mk f? rest =>
      rw [hscan] at h
      cases f? with
      | none => rw [drain_of_scan_none h, drain_of_scan_none hscan]
      | some f => rw [drain_of_scan_some h, drain_of_scan_some hscan]

/-- Scanning once and then draining, with more bytes to follow, is draining. -/
theorem drain_append_of_scan {l : Link} {b rest : Bytes} {f? : Option Frame}
    (h : l.scan b = (f?, rest)) (more : Bytes) :
    l.drain (b ++ more) =
      (f?.toList ++ (l.drain (rest ++ more)).1, (l.drain (rest ++ more)).2) := by
  have happend := scan_append l b more
  rw [h] at happend
  cases f? with
  | none => exact drain_congr happend
  | some f => exact drain_of_scan_some happend

/-- **Draining goes on where it ended.** -/
theorem drain_append (l : Link) (b more : Bytes) :
    l.drain (b ++ more) =
      ((l.drain b).1 ++ (l.drain ((l.drain b).2 ++ more)).1,
        (l.drain ((l.drain b).2 ++ more)).2) := by
  induction b using drain.induct l with
  | case1 b rest hscan =>
      rw [drain_append_of_scan hscan, drain_of_scan_none hscan]
      rfl
  | case2 b f rest hscan _ _ _ ih =>
      rw [drain_append_of_scan hscan, drain_of_scan_some hscan, ih]
      rfl

/-- After all frames are handed out there is none in the bytes that are kept. -/
theorem scan_drain (l : Link) (b : Bytes) :
    l.scan (l.drain b).2 = (none, (l.drain b).2) := by
  induction b using drain.induct l with
  | case1 b rest hscan =>
      rw [drain_of_scan_none hscan]
      exact scan_of_scan_none hscan
  | case2 b f rest hscan _ _ _ ih =>
      rw [drain_of_scan_some hscan]
      exact ih

end Link

namespace Reader

/-! ### Calls in any order -/

/-- What can be asked of a reader: to take in bytes, to hand out the next frame, or both until no
frame is left. -/
inductive Call
  | extend (data : Bytes)
  | next
  | push (data : Bytes)
  deriving DecidableEq, Repr

/-- The bytes that a call brings. -/
def Call.data : Call → Bytes
  | extend data => data
  | next => []
  | push data => data

/-- The frames that a call hands out, and the reader after it. -/
def perform (r : Reader) : Call → List Frame × Reader
  | .extend data => ([], r.extend data)
  | .next => (r.next.1.toList, r.next.2)
  | .push data => r.push data

/-- The frames that calls hand out one after the other, and the reader after them. -/
def run (r : Reader) : List Call → List Frame × Reader
  | [] => ([], r)
  | c :: calls =>
    let (frames, r) := r.perform c
    let (more, r) := r.run calls
    (frames ++ more, r)

/-- What is **to come** when the given bytes are still to be received: all frames, and the reader
after them. -/
def toCome (r : Reader) (more : Bytes) : List Frame × Reader :=
  ((r.link.drain (r.buffer ++ more)).1, { r with buffer := (r.link.drain (r.buffer ++ more)).2 })

/-- A call hands out the first of the frames that are to come and leaves the others to come. -/
theorem perform_to_come (r : Reader) (c : Call) (more : Bytes) :
    r.toCome (c.data ++ more) =
      ((r.perform c).1 ++ ((r.perform c).2.toCome more).1, ((r.perform c).2.toCome more).2) := by
  cases c with
  | extend data =>
      simp only [toCome, Call.data, perform, extend, List.nil_append, List.append_assoc]
  | next =>
      cases hscan : r.link.scan r.buffer with
      | mk f? rest =>
          have hdrain := Link.drain_append_of_scan hscan more
          simp only [toCome, Call.data, perform, next, hscan, List.nil_append, hdrain]
  | push data =>
      have hdrain := Link.drain_append r.link (r.buffer ++ data) more
      simp only [toCome, Call.data, perform, push, ← List.append_assoc, hdrain]

/-- **The invariant of a run**: what was to come at its start has been handed out or is to come. -/
theorem run_to_come (r : Reader) (calls : List Call) (more : Bytes) :
    r.toCome (calls.flatMap Call.data ++ more) =
      ((r.run calls).1 ++ ((r.run calls).2.toCome more).1, ((r.run calls).2.toCome more).2) := by
  induction calls generalizing r with
  | nil => rfl
  | cons c calls ih =>
      rw [List.flatMap_cons, List.append_assoc, perform_to_come, ih]
      simp only [run, List.append_assoc]

/-- Calls can be split into earlier and later ones. -/
theorem run_append (r : Reader) (first second : List Call) :
    r.run (first ++ second) =
      ((r.run first).1 ++ ((r.run first).2.run second).1, ((r.run first).2.run second).2) := by
  induction first generalizing r with
  | nil => rfl
  | cons c first ih => simp only [List.cons_append, run, ih, List.append_assoc]

/-- Pieces pushed one after the other are a run of pushes. -/
theorem pushAll_eq_run (r : Reader) (pieces : List Bytes) :
    ((r.pushAll pieces).1.flatten, (r.pushAll pieces).2) = r.run (pieces.map .push) := by
  induction pieces generalizing r with
  | nil => rfl
  | cons piece pieces ih =>
      simp only [pushAll, List.map_cons, run, perform, List.flatten_cons, ← ih]

/-! ### Readers that wait -/

/-- A reader is **waiting** if asking it for a frame gives none and changes nothing. -/
def Waiting (r : Reader) : Prop :=
  r.next = (none, r)

/-- Asking for a frame is one scan of the buffer. -/
theorem next_eq_of_scan {r : Reader} {f? : Option Frame} {rest : Bytes}
    (h : r.link.scan r.buffer = (f?, rest)) : r.next = (f?, { r with buffer := rest }) := by
  rw [next, h]

/-- Nothing is to come from a waiting reader but more bytes. -/
theorem Waiting.toCome {r : Reader} (h : r.Waiting) : r.toCome [] = ([], r) := by
  cases hscan : r.link.scan r.buffer with
  | mk f? rest =>
      rw [Waiting, next_eq_of_scan hscan] at h
      obtain ⟨rfl, hr⟩ := Prod.mk.injEq .. ▸ h
      have hrest : rest = r.buffer := congrArg buffer hr
      rw [Reader.toCome, List.append_nil, Link.drain_of_scan_none hscan, hrest]

/-- A reader that has given no frame is waiting. -/
theorem waiting_of_next_none {r : Reader} (h : r.next.1 = none) : r.next.2.Waiting := by
  cases hscan : r.link.scan r.buffer with
  | mk f? rest =>
      rw [next_eq_of_scan hscan] at h ⊢
      obtain rfl : f? = none := h
      exact next_eq_of_scan (r := { r with buffer := rest }) (Link.scan_of_scan_none hscan)

/-- A reader is waiting after every push. -/
theorem waiting_push (r : Reader) (data : Bytes) : (r.push data).2.Waiting :=
  next_eq_of_scan (r := (r.push data).2) (Link.scan_drain r.link (r.buffer ++ data))

/-- A waiting reader is waiting after any number of pushes. -/
theorem Waiting.run_push {r : Reader} (h : r.Waiting) (pieces : List Bytes) :
    (r.run (pieces.map .push)).2.Waiting := by
  induction pieces generalizing r with
  | nil => exact h
  | cons piece pieces ih => exact ih (waiting_push r piece)

/-- A fresh reader is waiting. -/
theorem waiting_ofLink (l : Link) : (ofLink l).Waiting := rfl

/-- **Reading comes to an end**: each frame uses up bytes, so after finitely many calls there is
none. -/
theorem exists_next_none (r : Reader) :
    ∃ n, (r.run (List.replicate n .next)).2.next.1 = none := by
  induction hn : r.buffer.length using Nat.strongRecOn generalizing r with
  | ind n ih =>
      cases hscan : r.link.scan r.buffer with
      | mk f? rest =>
          cases f? with
          | none => exact ⟨0, congrArg Prod.fst (next_eq_of_scan hscan)⟩
          | some f =>
              have hlt : rest.length < n := hn ▸ Link.scan_rest_lt hscan
              obtain ⟨k, hk⟩ := ih rest.length hlt { r with buffer := rest } rfl
              refine ⟨k + 1, ?_⟩
              rw [List.replicate_succ, run, perform, next_eq_of_scan hscan]
              exact hk

/-- A run that ends waiting has handed out what one push of all its bytes hands out. -/
theorem run_eq_push {r : Reader} {calls : List Call} (h : (r.run calls).2.Waiting) :
    r.run calls = r.push (calls.flatMap Call.data) := by
  have hcome := run_to_come r calls []
  rw [List.append_nil, h.toCome, List.append_nil] at hcome
  exact hcome.symm

/-- **Chunks do not matter.** A stream that is pushed into a fresh reader in pieces yields the
frames, and leaves the reader, that one push of the whole stream does. The same holds of calls that
receive and read in any order, once the reader has been asked for frames until there was none; and
asking long enough reaches that point. -/
theorem reading_ignores_chunks (l : Link) (b : Bytes) :
    (∀ pieces : List Bytes, pieces.flatten = b →
      ((ofLink l).pushAll pieces).1.flatten = ((ofLink l).push b).1 ∧
        ((ofLink l).pushAll pieces).2 = ((ofLink l).push b).2) ∧
    ∀ calls : List Call, calls.flatMap Call.data = b →
      (((ofLink l).run calls).2.next.1 = none →
        (ofLink l).run (calls ++ [.next]) = (ofLink l).push b) ∧
      ∃ n, ((ofLink l).run (calls ++ List.replicate n .next)).2.next.1 = none := by
  constructor
  · intro pieces hpieces
    have hdata : (pieces.map Call.push).flatMap Call.data = b := by
      rw [List.flatMap_map, ← hpieces]
      exact List.flatMap_id
    have hrun := run_eq_push ((waiting_ofLink l).run_push pieces)
    rw [hdata, ← pushAll_eq_run] at hrun
    exact ⟨congrArg Prod.fst hrun, congrArg Prod.snd hrun⟩
  · intro calls hcalls
    constructor
    · intro hnone
      have hwaiting : ((ofLink l).run (calls ++ [.next])).2.Waiting := by
        rw [run_append]
        exact waiting_of_next_none hnone
      rw [run_eq_push hwaiting, List.flatMap_append, hcalls]
      exact congrArg _ (List.append_nil b)
    · obtain ⟨n, hn⟩ := exists_next_none ((ofLink l).run calls).2
      exact ⟨n, by rw [run_append]; exact hn⟩

/-- A heartbeat that is pushed in three pieces, or received and read in four calls. -/
theorem reading_ignores_chunks_heartbeat :
    ((ofLink Sample.link).pushAll [[0xfe], [], Sample.heartbeatBytes.drop 1]).1.flatten =
        ((ofLink Sample.link).push Sample.heartbeatBytes).1 ∧
      (ofLink Sample.link).run
          [.extend [0xfe], .next, .extend (Sample.heartbeatBytes.drop 1), .next, .next] =
        (ofLink Sample.link).push Sample.heartbeatBytes := by
  obtain ⟨hpieces, hcalls⟩ := reading_ignores_chunks Sample.link Sample.heartbeatBytes
  refine ⟨(hpieces [[0xfe], [], Sample.heartbeatBytes.drop 1] rfl).1, ?_⟩
  exact (hcalls [.extend [0xfe], .next, .extend (Sample.heartbeatBytes.drop 1), .next] rfl).1
    (by decide +kernel)

end Reader

end Mavlink
