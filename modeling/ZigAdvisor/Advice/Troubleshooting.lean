import ZigAdvisor.Text.Basic

/-!
# Guide to build errors

The guide that is served on common errors of builds and what to do about them.
-/

namespace ZigAdvisor.Guide.Troubleshooting

def title : List String := [
  "# Zig Build System Troubleshooting",
  ""]

def issues : List String := [
  "## Common Issues and Solutions",
  ""]

def noInstallation : List String := [
  "### 1. \"error: unable to find zig installation directory\"",
  "**Solution**:",
  "- Ensure Zig is properly installed and in your PATH",
  "- Use absolute path to zig binary if needed",
  "- Verify installation: `zig version`",
  ""]

def noDependency : List String := [
  "### 2. \"error: dependency not found\"",
  "**Solution**:",
  "- Check build.zig.zon exists and lists the dependency",
  "- Run `zig build --fetch` to download dependencies",
  "- Verify dependency URLs and hashes are correct",
  ""]

def noOutputDirectory : List String := [
  "### 3. \"error: unable to create output directory\"",
  "**Solution**:",
  "- Check file permissions in project directory",
  "- Ensure adequate disk space",
  "- Try cleaning build cache: `rm -rf zig-cache zig-out`",
  ""]

def linkingErrors : List String := [
  "### 4. Cross-compilation linking errors",
  "**Solution**:",
  "- Install target system libraries if needed",
  "- Prefer musl targets for static binaries",
  "- Check the target triple is correct",
  ""]

def unreadableScript : List String := [
  "### 5. \"error: unable to parse build.zig\"",
  "**Solution**:",
  "- Check Zig syntax in build.zig",
  "- Ensure all imports are valid",
  "- Use `zig fmt build.zig` to format and catch errors",
  ""]

def slowBuilds : List String := [
  "### 6. Slow build times",
  "**Solutions**:",
  "- Keep the cache between builds (default behaviour)",
  "- Reduce debug info in release builds",
  "- Use `--cache-dir` to specify cache location",
  "- Limit parallel jobs with `-j<n>` on memory-constrained machines",
  ""]

def hashMismatch : List String := [
  "### 7. \"hash mismatch\" for dependencies",
  "**Solution**:",
  "- Update hash in build.zig.zon",
  "- Use `zig fetch --save <url>` to record the correct hash",
  "- Verify dependency URL is correct",
  ""]

def cache : List String := [
  "## Build Cache Management",
  "",
  "```bash",
  "# Clear build cache",
  "rm -rf zig-cache zig-out .zig-cache",
  "",
  "# Use custom cache directory",
  "zig build --cache-dir /tmp/zig-cache",
  "",
  "# Show every command the build runs",
  "zig build --verbose",
  "```",
  ""]

def debugging : List String := [
  "## Debugging Build Issues",
  "",
  "```bash",
  "# Verbose output",
  "zig build --verbose",
  "",
  "# Show all available steps and options",
  "zig build --help",
  "",
  "# Debug mode for development",
  "zig build -Doptimize=Debug",
  "",
  "# Print the build steps as a tree",
  "zig build --summary all",
  "```"]

def text : Text :=
  Text.ofLines (List.flatten [
    title, issues, noInstallation, noDependency, noOutputDirectory, linkingErrors,
    unreadableScript, slowBuilds, hashMismatch, cache, debugging])

end ZigAdvisor.Guide.Troubleshooting
