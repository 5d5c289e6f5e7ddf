import FeedBridge.Proofs.Uplink.Rested

namespace FeedBridge

inductive ConnectPoint
  | dialing
  | stored (connection : Nat)
  | opened (connection : Nat)
  | returned (connection : Option Nat)
deriving DecidableEq

def ConnectPoint.isActive : ConnectPoint → Bool
  | dialing | stored _ => true
  | opened _ | returned _ => false

inductive ReaderPoint
  | waiting
  | reading
  | ending
  | unhooking
  | clearing
  | leaving
  | gone
deriving DecidableEq

def ReaderPoint.isDone : ReaderPoint → Bool
  | leaving | gone => true
  | _ => false

inductive ClosePoint
  | stopping
  | joining (reader : Option Nat)
  | finishing
  | returned (outcome : CloseOutcome)
deriving DecidableEq

def ClosePoint.isActive : ClosePoint → Bool
  | stopping | joining _ | finishing => true
  | returned _ => false

/-- The connection, the calls on it, and the readers of all connections by their numbers. -/
structure Switchboard where
  uplink : Uplink := {}
  connects : List ConnectPoint := []
  readers : List ReaderPoint := []
  closes : List ClosePoint := []
deriving DecidableEq

namespace Switchboard

def beginConnect (s : Switchboard) : Switchboard :=
  match s.uplink.beginConnect? with
  | some uplink => { s with uplink, connects := s.connects ++ [.dialing] }
  | none => { s with connects := s.connects ++ [.returned none] }

def advanceConnect (s : Switchboard) (call : Nat) (dial : Dial) : Switchboard :=
  match s.connects[call]?, dial with
  | some .dialing, .accepted =>
    { s with
      uplink := s.uplink.storeSink
      connects := s.connects.set call (.stored s.uplink.made)
      readers := s.readers ++ [.waiting] }
  | some .dialing, _ =>
    { s with uplink := s.uplink.abortConnect, connects := s.connects.set call (.returned none) }
  | some (.stored connection), _ =>
    { s with
      uplink := s.uplink.setOpen
      connects := s.connects.set call (.opened connection)
      readers := s.readers.set connection .reading }
  | some (.opened connection), _ =>
    { s with
      uplink := s.uplink.storeReader connection
      connects := s.connects.set call (.returned (some connection)) }
  | _, _ => s

def setReader (s : Switchboard) (connection : Nat) (point : ReaderPoint) : Switchboard :=
  { s with readers := s.readers.set connection point }

def advanceReader (s : Switchboard) (connection : Nat) : Switchboard :=
  match s.readers[connection]? with
  | some .reading => s.setReader connection .ending
  | some .ending =>
    match s.uplink.endOpen with
    | (true, uplink) => { s with uplink }.setReader connection .unhooking
    | (false, uplink) => { s with uplink }.setReader connection .leaving
  | some .unhooking => { s with uplink := s.uplink.dropSink }.setReader connection .clearing
  | some .clearing => { s with uplink := s.uplink.clearGauge }.setReader connection .leaving
  | some .leaving => s.setReader connection .gone
  | _ => s

def beginClose (s : Switchboard) : Switchboard :=
  match s.uplink.beginClose? with
  | some uplink => { s with uplink, closes := s.closes ++ [.stopping] }
  | none => { s with closes := s.closes ++ [.returned .alreadyClosed] }

def isGone (s : Switchboard) : Option Nat → Bool
  | some connection => s.readers[connection]? = some .gone
  | none => true

def advanceClose (s : Switchboard) (call : Nat) : Switchboard :=
  match s.closes[call]? with
  | some .stopping =>
    let (reader, uplink) := s.uplink.takeReader
    { s with uplink, closes := s.closes.set call (.joining reader) }
  | some (.joining reader) =>
    if s.isGone reader then
      { s with uplink := s.uplink.takeSink.2, closes := s.closes.set call .finishing }
    else s
  | some .finishing =>
    { s with uplink := s.uplink.finishClose, closes := s.closes.set call (.returned .closed) }
  | _ => s

inductive Step
  | connect
  | advanceConnect (call : Nat) (dial : Dial)
  | advanceReader (connection : Nat)
  | close
  | advanceClose (call : Nat)
deriving DecidableEq

def step (s : Switchboard) : Step → Switchboard
  | .connect => s.beginConnect
  | .advanceConnect call dial => s.advanceConnect call dial
  | .advanceReader connection => s.advanceReader connection
  | .close => s.beginClose
  | .advanceClose call => s.advanceClose call

def run (s : Switchboard) (steps : List Step) : Switchboard := steps.foldl step s

@[simp] theorem run_nil (s : Switchboard) : s.run [] = s := rfl

@[simp] theorem run_cons (s : Switchboard) (step : Step) (rest : List Step) :
    s.run (step :: rest) = (s.step step).run rest := rfl

theorem run_append (s : Switchboard) (steps later : List Step) :
    s.run (steps ++ later) = (s.run steps).run later := List.foldl_append

/-! ## What one section can do -/

inductive Stepped (s : Switchboard) : Step → Switchboard → Prop
  | refuse (busy : s.uplink.beginConnect? = none) :
      Stepped s .connect { s with connects := s.connects ++ [.returned none] }
  | dial (free : s.uplink.beginConnect? = some { s.uplink with state := .connecting }) :
      Stepped s .connect { s with
        uplink := { s.uplink with state := .connecting }
        connects := s.connects ++ [.dialing] }
  | store (call : Nat) (located : s.connects[call]? = some .dialing) :
      Stepped s (.advanceConnect call .accepted) { s with
        uplink := s.uplink.storeSink
        connects := s.connects.set call (.stored s.uplink.made)
        readers := s.readers ++ [.waiting] }
  | abort (call : Nat) (dial : Dial) (located : s.connects[call]? = some .dialing) :
      Stepped s (.advanceConnect call dial) { s with
        uplink := s.uplink.abortConnect
        connects := s.connects.set call (.returned none) }
  | enter (call connection : Nat) (dial : Dial)
      (located : s.connects[call]? = some (.stored connection)) :
      Stepped s (.advanceConnect call dial) { s with
        uplink := s.uplink.setOpen
        connects := s.connects.set call (.opened connection)
        readers := s.readers.set connection .reading }
  | keepReader (call connection : Nat) (dial : Dial)
      (located : s.connects[call]? = some (.opened connection)) :
      Stepped s (.advanceConnect call dial) { s with
        uplink := s.uplink.storeReader connection
        connects := s.connects.set call (.returned (some connection)) }
  | leaveLoop (connection : Nat) (located : s.readers[connection]? = some .reading) :
      Stepped s (.advanceReader connection) (s.setReader connection .ending)
  | endOpen (connection : Nat) (located : s.readers[connection]? = some .ending)
      (isOpen : s.uplink.state = .open) :
      Stepped s (.advanceReader connection)
        ({ s with uplink := { s.uplink with state := .closed } }.setReader connection .unhooking)
  | endOther (connection : Nat) (located : s.readers[connection]? = some .ending)
      (elsewhere : s.uplink.state ≠ .open) :
      Stepped s (.advanceReader connection) (s.setReader connection .leaving)
  | unhook (connection : Nat) (located : s.readers[connection]? = some .unhooking) :
      Stepped s (.advanceReader connection)
        ({ s with uplink := s.uplink.dropSink }.setReader connection .clearing)
  | clear (connection : Nat) (located : s.readers[connection]? = some .clearing) :
      Stepped s (.advanceReader connection)
        ({ s with uplink := s.uplink.clearGauge }.setReader connection .leaving)
  | tell (connection : Nat) (located : s.readers[connection]? = some .leaving) :
      Stepped s (.advanceReader connection) (s.setReader connection .gone)
  | refuseClose (shut : s.uplink.state ≠ .open) :
      Stepped s .close { s with closes := s.closes ++ [.returned .alreadyClosed] }
  | beginClose (isOpen : s.uplink.state = .open) :
      Stepped s .close { s with
        uplink := { s.uplink with state := .closing }
        closes := s.closes ++ [.stopping] }
  | takeReader (call : Nat) (located : s.closes[call]? = some .stopping) :
      Stepped s (.advanceClose call) { s with
        uplink := { s.uplink with reader := none }
        closes := s.closes.set call (.joining s.uplink.reader) }
  | takeSink (call : Nat) (reader : Option Nat)
      (located : s.closes[call]? = some (.joining reader)) (joined : s.isGone reader = true) :
      Stepped s (.advanceClose call) { s with
        uplink := s.uplink.dropSink
        closes := s.closes.set call .finishing }
  | finishClose (call : Nat) (located : s.closes[call]? = some .finishing) :
      Stepped s (.advanceClose call) { s with
        uplink := s.uplink.finishClose
        closes := s.closes.set call (.returned .closed) }
  | stay (step : Step) : Stepped s step s

theorem stepped (s : Switchboard) (step : Step) : Stepped s step (s.step step) := by
  cases step with
  | connect =>
      rcases s.uplink.beginConnect?_cases with ⟨busy, -⟩ | ⟨free, -⟩
      · simpa only [Switchboard.step, beginConnect, busy] using Stepped.refuse busy
      · simpa only [Switchboard.step, beginConnect, free] using Stepped.dial free
  | advanceConnect call dial =>
      cases located : s.connects[call]? with
      | none => simpa only [Switchboard.step, advanceConnect, located] using Stepped.stay _
      | some point =>
          cases point with
          | dialing =>
              cases dial with
              | accepted =>
                  simpa only [Switchboard.step, advanceConnect, located] using
                    Stepped.store call located
              | failed reason =>
                  simpa only [Switchboard.step, advanceConnect, located] using
                    Stepped.abort call (.failed reason) located
              | timedOut =>
                  simpa only [Switchboard.step, advanceConnect, located] using
                    Stepped.abort call .timedOut located
          | stored connection =>
              simpa only [Switchboard.step, advanceConnect, located] using
                Stepped.enter call connection dial located
          | opened connection =>
              simpa only [Switchboard.step, advanceConnect, located] using
                Stepped.keepReader call connection dial located
          | returned result =>
              simpa only [Switchboard.step, advanceConnect, located] using Stepped.stay _
  | advanceReader connection =>
      cases located : s.readers[connection]? with
      | none => simpa only [Switchboard.step, advanceReader, located] using Stepped.stay _
      | some point =>
          cases point with
          | ending =>
              by_cases isOpen : s.uplink.state = .open
              · simpa [Switchboard.step, advanceReader, located, Uplink.endOpen, Uplink.isOpen,
                  isOpen] using Stepped.endOpen connection located isOpen
              · simpa [Switchboard.step, advanceReader, located, Uplink.endOpen, Uplink.isOpen,
                  isOpen] using Stepped.endOther connection located isOpen
          | reading =>
              simpa only [Switchboard.step, advanceReader, located] using
                Stepped.leaveLoop connection located
          | unhooking =>
              simpa only [Switchboard.step, advanceReader, located] using
                Stepped.unhook connection located
          | clearing =>
              simpa only [Switchboard.step, advanceReader, located] using
                Stepped.clear connection located
          | leaving =>
              simpa only [Switchboard.step, advanceReader, located] using
                Stepped.tell connection located
          | waiting | gone =>
              simpa only [Switchboard.step, advanceReader, located] using Stepped.stay _
  | close =>
      by_cases isOpen : s.uplink.state = .open
      · simpa [Switchboard.step, beginClose, Uplink.beginClose?, Uplink.isOpen, isOpen] using
          Stepped.beginClose isOpen
      · simpa [Switchboard.step, beginClose, Uplink.beginClose?, Uplink.isOpen, isOpen] using
          Stepped.refuseClose isOpen
  | advanceClose call =>
      cases located : s.closes[call]? with
      | none => simpa only [Switchboard.step, advanceClose, located] using Stepped.stay _
      | some point =>
          cases point with
          | stopping =>
              simpa only [Switchboard.step, advanceClose, located, Uplink.takeReader] using
                Stepped.takeReader call located
          | joining reader =>
              by_cases joined : s.isGone reader = true
              · simpa only [Switchboard.step, advanceClose, located, if_pos joined, Uplink.takeSink]
                  using Stepped.takeSink call reader located joined
              · simpa only [Switchboard.step, advanceClose, located, if_neg joined] using
                  Stepped.stay _
          | finishing =>
              simpa only [Switchboard.step, advanceClose, located] using
                Stepped.finishClose call located
          | returned outcome =>
              simpa only [Switchboard.step, advanceClose, located] using Stepped.stay _

theorem run_connect (s : Switchboard) (url : String) (timeout : Span) (dial : Dial) :
    (s.run (.connect :: List.replicate 3 (.advanceConnect s.connects.length dial))).uplink =
      (s.uplink.connect url timeout dial).1 := by
  rcases s.uplink.beginConnect?_cases with ⟨busy, -⟩ | ⟨free, -⟩
  · simp [Switchboard.step, beginConnect, advanceConnect, Uplink.connect, busy, List.replicate]
  · cases dial <;>
      simp [Switchboard.step, beginConnect, advanceConnect, Uplink.connect, free, List.replicate,
        Uplink.storeSink]

theorem run_reader (s : Switchboard) {connection : Nat}
    (located : s.readers[connection]? = some .reading) :
    s.run (List.replicate 5 (.advanceReader connection)) =
      { s with uplink := s.uplink.endReader, readers := s.readers.set connection .gone } := by
  cases isOpen : s.uplink.isOpen <;>
    simp [Switchboard.step, advanceReader, setReader, located, List.getElem?_set_self',
      Uplink.endReader, Uplink.endOpen, isOpen, List.replicate]

theorem run_close (s : Switchboard) (farewell : Farewell) {connection : Nat}
    (isOpen : s.uplink.state = .open) (kept : s.uplink.reader = some connection)
    (located : s.readers[connection]? = some .reading) :
    let call := s.closes.length
    (s.run ([.close, .advanceClose call] ++ List.replicate 5 (.advanceReader connection) ++
      List.replicate 2 (.advanceClose call))).uplink = (s.uplink.close farewell).1 := by
  intro call
  have begun : s.run [.close, .advanceClose call] = { s with
      uplink := { s.uplink with state := .closing, reader := none }
      closes := s.closes ++ [.joining (some connection)] } := by
    simp [call, Switchboard.step, beginClose, advanceClose, Uplink.beginClose?, Uplink.isOpen,
      Uplink.takeReader, isOpen, kept]
  have awaited : (s.run [.close, .advanceClose call]).readers[connection]? = some .reading := by
    rw [begun]
    exact located
  rw [run_append, run_append, run_reader _ awaited, begun]
  simp [call, Switchboard.step, advanceClose, isGone, List.getElem?_set_self', located, List.replicate,
    Uplink.close, Uplink.beginClose?, Uplink.isOpen, Uplink.takeReader, isOpen, kept,
    Uplink.endReader, Uplink.endOpen]

end Switchboard

end FeedBridge
