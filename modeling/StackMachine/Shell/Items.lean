import StackMachine.Shell

/-!
A shell over a stack of texts.
-/

set_option autoImplicit false

namespace StackMachine.Shell.Items

/-- The commands of the shell. The top of the stack is its last item. -/
def shell : Shell (List String) where
  commands := [
    { name := "exit"
      help := "Exit the shell."
      act := fun items terminal _ => ⟨items, terminal.writeLine "Exiting...", .ok true⟩ },
    { name := "my_stupid_cmd"
      help := "A stupid command that does nothing."
      act := fun items terminal _ =>
        goOn items (terminal.writeLine "This is a stupid command that does nothing.") },
    { name := "pop"
      help := "Pop the last item off the stack."
      act := fun items terminal _ =>
        match items.getLast? with
        | some item =>
          goOn items.dropLast
            (terminal.writeLine ("Popped " ++ String.ofList (Text.quoted item.toList)))
        | none => goOn items (terminal.writeLine "Stack is empty.") },
    { name := "push"
      help := "Push an item onto the stack: PUSH <item>"
      act := fun items terminal argument =>
        if argument.isEmpty then goOn items (terminal.writeLine "Usage: push <item>")
        else
          goOn (items ++ [String.ofList argument])
            (terminal.writeLine ("Pushed " ++ String.ofList (Text.quoted argument))) },
    { name := "stack"
      help := "Show current stack contents."
      act := fun items terminal _ =>
        if items.isEmpty then goOn items (terminal.writeLine "Stack is empty.")
        else
          let shown := (Value.list (items.map Value.text)).literal
          goOn items (terminal.writeLine ("Stack: " ++ String.ofList shown)) }]

end StackMachine.Shell.Items
