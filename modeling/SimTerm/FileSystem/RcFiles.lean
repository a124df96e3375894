/-!
# Shell Configuration Files

The configuration files that every new session finds in the home directory, one for each
persona, and the text that greets the user there.

## Main definitions

* `RcFiles.bash`, `RcFiles.zsh`, `RcFiles.fish`, `RcFiles.powershell`: The texts.
* `RcFiles.all`: Each persona's name with the path and the text of its file.
-/

namespace SimTerm

/-- Lines with a line feed between two of them. -/
def joinLines (lines : List String) : String := String.intercalate "\n" lines

namespace RcFiles

/-- What greets the user in the home directory. -/
def welcome : String :=
  joinLines [
    "Welcome to Hyper Terminal!",
    "This is a simulated file system."]

/-- The configuration of the bash persona. -/
def bash : String :=
  joinLines [
    "# ~/.bashrc - Bash configuration file",
    "",
    "# Aliases",
    "alias ll='ls -la'",
    "alias la='ls -A'",
    "alias l='ls -CF'",
    "alias grep='grep --color=auto'",
    "alias ..='cd ..'",
    "alias ...='cd ../..'",
    "",
    "# Environment variables",
    "export PATH=\"/usr/local/bin:/usr/bin:/bin\"",
    "export EDITOR=\"nano\"",
    "export HISTSIZE=1000",
    "export HISTFILESIZE=2000",
    "",
    "# Custom prompt",
    "export PS1='\\[\\033[01;32m\\]\\u@\\h\\[\\033[00m\\]:\\[\\033[01;34m\\]\\w\\[\\033[00m\\]\\$ '",
    "",
    "# Functions",
    "function mkcd() \x7b",
    "    mkdir -p \"$1\" && cd \"$1\"",
    "\x7d",
    "",
    "echo \"Bash configuration loaded\""]

/-- The configuration of the zsh persona. -/
def zsh : String :=
  joinLines [
    "# ~/.zshrc - Zsh configuration file",
    "",
    "# Aliases",
    "alias ll='ls -la'",
    "alias la='ls -A'",
    "alias l='ls -CF'",
    "alias grep='grep --color=auto'",
    "alias ..='cd ..'",
    "alias ...='cd ../..'",
    "",
    "# Environment variables",
    "export PATH=\"/usr/local/bin:/usr/bin:/bin\"",
    "export EDITOR=\"nano\"",
    "export HISTSIZE=1000",
    "export SAVEHIST=1000",
    "export HISTFILE=~/.zsh_history",
    "",
    "# Zsh options",
    "setopt AUTO_CD",
    "setopt HIST_VERIFY",
    "setopt SHARE_HISTORY",
    "",
    "# Custom prompt",
    "export PS1='%F\x7bgreen\x7d%n@%m%f:%F\x7bblue\x7d%~%f%# '",
    "",
    "# Functions",
    "function mkcd() \x7b",
    "    mkdir -p \"$1\" && cd \"$1\"",
    "\x7d",
    "",
    "echo \"Zsh configuration loaded\""]

/-- The configuration of the fish persona. -/
def fish : String :=
  joinLines [
    "# ~/.config/fish/config.fish - Fish configuration file",
    "",
    "# Aliases",
    "alias ll 'ls -la'",
    "alias la 'ls -A'",
    "alias l 'ls -CF'",
    "alias grep 'grep --color=auto'",
    "alias .. 'cd ..'",
    "alias ... 'cd ../..'",
    "",
    "# Environment variables",
    "set -gx PATH /usr/local/bin /usr/bin /bin",
    "set -gx EDITOR nano",
    "",
    "# Functions",
    "function mkcd",
    "    mkdir -p $argv[1]; and cd $argv[1]",
    "end",
    "",
    "# Fish greeting",
    "function fish_greeting",
    "    echo \"Fish shell configuration loaded\"",
    "end"]

/-- The configuration of the PowerShell persona. -/
def powershell : String :=
  joinLines [
    "# Microsoft.PowerShell_profile.ps1 - PowerShell configuration file",
    "",
    "# Aliases",
    "Set-Alias ll Get-ChildItem",
    "Set-Alias la Get-ChildItem",
    "Set-Alias grep Select-String",
    "",
    "# Environment variables",
    "$env:EDITOR = \"notepad\"",
    "",
    "# Functions",
    "function mkcd($path) \x7b",
    "    New-Item -ItemType Directory -Path $path -Force | Out-Null",
    "    Set-Location $path",
    "\x7d",
    "",
    "function .. \x7b Set-Location .. \x7d",
    "function ... \x7b Set-Location ../.. \x7d",
    "",
    "# Custom prompt",
    "function prompt \x7b",
    "    \"PS \" + (Get-Location) + \"> \"",
    "\x7d",
    "",
    "Write-Host \"PowerShell configuration loaded\" -ForegroundColor Green"]

/-- Each persona's name with the path and the text of its file. -/
def all : List (String × String × String) := [
  ("bash", "/home/user/.bashrc", bash),
  ("zsh", "/home/user/.zshrc", zsh),
  ("fish", "/home/user/.config/fish/config.fish", fish),
  ("powershell", "/home/user/Microsoft.PowerShell_profile.ps1", powershell)]

end RcFiles

end SimTerm
