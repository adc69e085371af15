import FindingLedger.CheckerTable.Basic

/-!
# The built-in checker table

The descriptions and patterns of the checkers that are known without a table of one's own.
-/

namespace FindingLedger
namespace CheckerTable

def builtinDescriptions : List (String × String) :=
  [("Division by zero", "core.DivideZero"),
   ("Dereference of null pointer", "core.NullDereference"),
   ("Dereference of undefined pointer value", "core.NullDereference"),
   ("Called function pointer is null (null dereference)", "core.CallAndMessage"),
   ("Called function pointer is an uninitialized pointer value", "core.CallAndMessage"),
   ("Function call argument is an uninitialized value", "core.CallAndMessage"),
   ("The left operand of '==' is a garbage value", "core.UndefinedBinaryOperatorResult"),
   ("Undefined or garbage value returned to caller", "core.uninitialized.UndefReturn"),
   ("Assigned value is garbage or undefined", "core.uninitialized.Assign"),
   ("Branch condition evaluates to a garbage value", "core.uninitialized.Branch"),
   ("Potential memory leak", "unix.Malloc"),
   ("Use of memory after it is freed", "unix.Malloc"),
   ("Attempt to free released memory", "unix.Malloc"),
   ("Null pointer passed as an argument to a 'nonnull' parameter",
      "core.NonNullParamChecker"),
   ("Call to 'malloc' has an allocation size of 0 bytes", "unix.API"),
   ("Call to function 'strcpy' is insecure as it does not provide bounding " ++
      "of the memory buffer. Replace unbounded copy functions with analogous " ++
      "functions that support length arguments such as 'strlcpy'. CWE-119",
      "security.insecureAPI.strcpy"),
   ("Call to function 'gets' is extremely insecure as it can always result " ++
      "in a buffer overflow",
      "security.insecureAPI.gets")]

def builtinPatterns : List (String × String) :=
  [("^Value stored to '.+' is never read$", "deadcode.DeadStores"),
   ("^Value stored to '.+' during its initialization is never read$",
      "deadcode.DeadStores"),
   ("^Although the value stored to '.+' is used in the enclosing expression, " ++
      "the value is never actually read from '.+'$",
      "deadcode.DeadStores"),
   ("^Access to field '.+' results in a dereference of a null pointer",
      "core.NullDereference"),
   ("^Address of stack memory associated with local variable '.+' returned to caller$",
      "core.StackAddressEscape"),
   ("^Memory is never released; potential leak of memory pointed to by '.+'$",
      "unix.Malloc"),
   ("^Potential leak of memory pointed to by '.+'$", "unix.Malloc")]

def builtin : CheckerTable :=
  { exact := builtinDescriptions
    patterns := builtinPatterns.filterMap fun row =>
      (Pattern.read? row.1).map fun p => (p, row.2) }

end CheckerTable
end FindingLedger
