import StackMachine.Proofs.Machine.Effect

/-!
Calls and returns as brackets. Whatever is done between a call and the return that matches it, the
return gives the caller everything back but the operand stack. What is in between may call and return,
store, jump and fail; it only has to stay above the depth of the caller.
-/

set_option autoImplicit false

namespace StackMachine

namespace Machine

/-- The machines that `start` can become while at least `depth` frames stay saved: by instructions under
any labels and on any console, carried out or failed, and by setting the instruction pointer. -/
inductive Excursion (depth : Nat) (start : Machine) : Machine → Prop where
  | start (deep : depth ≤ start.frames.length) : Excursion depth start start
  | execute {machine : Machine} (before : Excursion depth start machine) (labels : Labels)
      (console : Console) (instruction : Instruction)
      (deep : depth ≤ (machine.execute labels console instruction).machine.frames.length) :
      Excursion depth start (machine.execute labels console instruction).machine
  | moveTo {machine : Machine} (before : Excursion depth start machine) (ip : Int) :
      Excursion depth start { machine with ip }

/-- A machine in the midst of a call by `caller`: under the frames and return points of calls that were
made since, as many of the one as of the other, lie those of the caller's call. -/
def InsideCallOf (caller machine : Machine) : Prop :=
  ∃ (frames : List Bindings) (saved : List ReturnPoint), frames.length = saved.length ∧
    machine.frames = frames ++ caller.bindings :: caller.frames ∧
    machine.saved = saved ++ ⟨caller.current, caller.ip⟩ :: caller.saved

/-- No instruction reaches below the caller's frame unless it is the return from the call. -/
theorem InsideCallOf.effect {caller machine after : Machine} {labels : Labels}
    {instruction : Instruction} {fault : Option Fault} (inside : caller.InsideCallOf machine)
    (effect : Effect labels machine instruction after fault)
    (deep : caller.frames.length < after.frames.length) : caller.InsideCallOf after := by
  obtain ⟨frames, saved, paired, framesEq, savedEq⟩ := inside
  cases effect with
  | failed | worked | stored | jumped => exact ⟨frames, saved, paired, framesEq, savedEq⟩
  | called isCall operands =>
      refine ⟨machine.bindings :: frames, ⟨machine.current, machine.ip⟩ :: saved, ?_, ?_, ?_⟩
      · simp only [List.length_cons, paired]
      · simp only [framesEq, List.cons_append]
      · simp only [savedEq, List.cons_append]
  | returned isRet places framed =>
      cases frames with
      | nil =>
          -- The return would be the caller's own, and its frames are all that is left.
          obtain ⟨-, rest⟩ := List.cons.inj (framed.symm.trans framesEq)
          rw [rest] at deep
          exact absurd deep (Nat.lt_irrefl _)
      | cons frame frames =>
          cases saved with
          | nil => cases paired
          | cons place saved =>
              obtain ⟨-, framesLeft⟩ := List.cons.inj (framed.symm.trans framesEq)
              obtain ⟨-, savedLeft⟩ := List.cons.inj (places.symm.trans savedEq)
              exact ⟨frames, saved, Nat.succ.inj paired, framesLeft, savedLeft⟩
  | unpaired places unframed => simp [unframed] at framesEq

theorem InsideCallOf.deep {caller machine : Machine} (inside : caller.InsideCallOf machine) :
    caller.frames.length < machine.frames.length := by
  obtain ⟨frames, saved, -, framesEq, -⟩ := inside
  rw [framesEq, List.length_append, List.length_cons]
  omega

theorem InsideCallOf.top {caller machine : Machine} (inside : caller.InsideCallOf machine)
    (level : machine.frames.length = caller.frames.length + 1) :
    machine.frames = caller.bindings :: caller.frames ∧
      machine.saved = ⟨caller.current, caller.ip⟩ :: caller.saved := by
  obtain ⟨frames, saved, paired, framesEq, savedEq⟩ := inside
  have none : frames.length = 0 := by
    rw [framesEq, List.length_append, List.length_cons] at level
    omega
  rw [List.eq_nil_of_length_eq_zero none] at framesEq
  rw [List.eq_nil_of_length_eq_zero (paired.symm.trans none)] at savedEq
  exact ⟨framesEq, savedEq⟩

theorem InsideCallOf.ret {caller machine : Machine} (inside : caller.InsideCallOf machine)
    (level : machine.frames.length = caller.frames.length + 1) (console : Console) :
    machine.ret console = .done { caller with stack := machine.stack } console := by
  obtain ⟨framed, places⟩ := inside.top level
  simp only [Machine.ret, places, framed]

/-- An instruction that gets back to the depth of the caller is the return from the call. -/
theorem InsideCallOf.returned {caller machine after : Machine} {labels : Labels}
    {instruction : Instruction} (inside : caller.InsideCallOf machine)
    (level : machine.frames.length = caller.frames.length + 1)
    (effect : Effect labels machine instruction after none)
    (back : after.frames.length = caller.frames.length) : after = { caller with stack := after.stack } := by
  obtain ⟨framesTop, savedTop⟩ := inside.top level
  cases effect with
  | worked | stored | jumped =>
      dsimp only at back
      omega
  | called =>
      rw [List.length_cons] at back
      omega
  | returned isRet places framed =>
      obtain ⟨rfl, rfl⟩ := List.cons.inj (framed.symm.trans framesTop)
      obtain ⟨rfl, rfl⟩ := List.cons.inj (places.symm.trans savedTop)
      rfl

theorem insideCallOf_of_effect {caller after : Machine} {labels : Labels} {call : Instruction}
    (isCall : call.is .call = true) (effect : Effect labels caller call after none) :
    caller.InsideCallOf after ∧ after.frames.length = caller.frames.length + 1 := by
  have stays : call.transfers = true := by simp only [Instruction.transfers, isCall, Bool.true_or]
  cases effect with
  | worked other | stored other | jumped other => simp [stays] at other
  | called => exact ⟨⟨[], [], rfl, rfl, rfl⟩, rfl⟩
  | returned isRet =>
      have noRet := Instruction.is_eq_false_of_is isCall (by decide : Opcode.call ≠ .ret)
      simp [isRet] at noRet

theorem Excursion.insideCallOf {caller start machine : Machine}
    (excursion : Excursion (caller.frames.length + 1) start machine)
    (inside : caller.InsideCallOf start) : caller.InsideCallOf machine := by
  induction excursion with
  | start => exact inside
  | execute before labels console instruction deep ih =>
      exact ih.effect (execute_effect labels _ console instruction) deep
  | moveTo before ip ih => exact ih

/-- A call, any excursion above the caller that comes back to one frame above it, and a return: call and
return succeed, and of the caller's memory only the operand stack may have changed. Frames and return
points of the caller itself need not pair up. -/
theorem ret_restores_caller (caller inner : Machine) (callLabels retLabels : Labels)
    (callConsole retConsole : Console) (operands : caller.stack ≠ [])
    (excursion : Excursion (caller.frames.length + 1)
      (caller.execute callLabels callConsole (.of .call [])).machine inner)
    (level : inner.frames.length = caller.frames.length + 1) :
    (caller.execute callLabels callConsole (.of .call [])).fault = none ∧
      (inner.execute retLabels retConsole (.of .ret [])).fault = none ∧
      (inner.execute retLabels retConsole (.of .ret [])).machine =
        { caller with stack := inner.stack } := by
  obtain ⟨function, rest, operands⟩ := List.exists_cons_of_ne_nil operands
  have called : (caller.execute callLabels callConsole (.of .call [])).fault = none := by
    simp only [execute, perform, Instruction.of, call, pop, operands, Outcome.done]
  have effect := execute_effect callLabels caller callConsole (.of .call [])
  rw [called] at effect
  obtain ⟨inside, -⟩ := insideCallOf_of_effect rfl effect
  have returned := (excursion.insideCallOf inside).ret level retConsole
  refine ⟨called, ?_, ?_⟩
  · exact congrArg Outcome.fault returned
  · exact congrArg Outcome.machine returned

/-- In between: a nested call, an addition that fails for want of a second operand, the return from the
nested call, and a jump by hand. -/
theorem ret_restores_caller_nested :
    Excursion 1
        (execute .empty { stack := [.text "f", .text "g", .int 5], ip := 3 } {} (.of .call [])).machine
        { frames := [.empty], saved := [⟨.text entryPoint, 3⟩], ip := 7, current := .text "f" } ∧
      (execute .empty
        { frames := [.empty], saved := [⟨.text entryPoint, 3⟩], ip := 7, current := .text "f" }
        {} (.of .ret [])).machine = { ip := 3 } := by
  have excursion : Excursion 1
      (execute .empty { stack := [.text "f", .text "g", .int 5], ip := 3 } {} (.of .call [])).machine
      { frames := [.empty], saved := [⟨.text entryPoint, 3⟩], ip := 7, current := .text "f" } :=
    Excursion.start (by decide)
      |>.execute .empty {} (.of .call []) (by decide)
      |>.execute .empty {} (.of (.arithmetic .add) []) (by decide)
      |>.execute .empty {} (.of .ret []) (by decide)
      |>.moveTo 7
  have restored := ret_restores_caller { stack := [.text "f", .text "g", .int 5], ip := 3 } _
    .empty .empty {} {} (by simp) excursion rfl
  exact ⟨excursion, restored.2.2⟩

end Machine

end StackMachine
