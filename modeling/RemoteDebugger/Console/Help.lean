/-!
# Help

The text that is shown for the help command.
-/

namespace RemoteDebugger.Console

/-- The commands and what they do. -/
def help : String := "
Available commands:
s, step                      -- step into the next line
n, next                      -- step over the next line
r, return                    -- run until the current function returns
c, continue [FILE:LINE]      -- continue, optionally until FILE:LINE
j, jump LINE                 -- set the next line to execute
b, break FILE:LINE [if COND] -- set a breakpoint
tbreak FILE:LINE             -- set a one-shot breakpoint
clear FILE[:LINE]            -- remove a breakpoint or all breakpoints in a file
bl, breakpoints              -- list breakpoints
p, eval EXPR                 -- evaluate an expression in the current frame
!, exec STATEMENT            -- execute a statement in the current frame
w, where                     -- print the call stack
env                          -- print local and global variables
i, interrupt                 -- stop the running program
attach                       -- connect to the agent
detach                       -- disconnect, the program keeps running
state                        -- print session state
q, quit                      -- terminate the program and exit
h, help                      -- show this help
"

end RemoteDebugger.Console
