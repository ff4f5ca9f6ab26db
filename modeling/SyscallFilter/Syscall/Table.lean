import SyscallFilter.Arch

/-!
The system calls of every supported architecture: one row a name, in alphabetical order, with the
number each architecture gives the call. A call that an architecture lacks has no number there.
-/

namespace SyscallFilter.Syscall

/-- A system call's name and its number on each architecture that has it. -/
structure Row where
  name : String
  numbers : PerArch (Option Nat)

/-- A row from the name and the numbers on x86, x86_64, arm, aarch64 and riscv64. -/
def row (name : String) (x86 x8664 arm aarch64 riscv64 : Option Nat) : Row :=
  ⟨name, ⟨x86, x8664, arm, aarch64, riscv64⟩⟩

/-- Every known system call. -/
def table : List Row :=
  [
    row "_llseek" (some 140) none (some 140) none none,
    row "_newselect" (some 142) none (some 142) none none,
    row "_sysctl" (some 149) (some 156) (some 149) none none,
    row "accept" none (some 43) (some 285) (some 202) (some 202),
    row "accept4" (some 364) (some 288) (some 366) (some 242) (some 242),
    row "access" (some 33) (some 21) (some 33) none none,
    row "acct" (some 51) (some 163) (some 51) (some 89) (some 89),
    row "add_key" (some 286) (some 248) (some 309) (some 217) (some 217),
    row "adjtimex" (some 124) (some 159) (some 124) (some 171) (some 171),
    row "afs_syscall" (some 137) (some 183) none none none,
    row "alarm" (some 27) (some 37) none none none,
    row "arch_prctl" (some 384) (some 158) none none none,
    row "arm_fadvise64_64" none none (some 270) none none,
    row "arm_sync_file_range" none none (some 341) none none,
    row "bdflush" (some 134) none (some 134) none none,
    row "bind" (some 361) (some 49) (some 282) (some 200) (some 200),
    row "bpf" (some 357) (some 321) (some 386) (some 280) (some 280),
    row "break" (some 17) none none none none,
    row "brk" (some 45) (some 12) (some 45) (some 214) (some 214),
    row "cachestat" (some 451) (some 451) (some 451) (some 451) (some 451),
    row "capget" (some 184) (some 125) (some 184) (some 90) (some 90),
    row "capset" (some 185) (some 126) (some 185) (some 91) (some 91),
    row "chdir" (some 12) (some 80) (some 12) (some 49) (some 49),
    row "chmod" (some 15) (some 90) (some 15) none none,
    row "chown" (some 182) (some 92) (some 182) none none,
    row "chown32" (some 212) none (some 212) none none,
    row "chroot" (some 61) (some 161) (some 61) (some 51) (some 51),
    row "clock_adjtime" (some 343) (some 305) (some 372) (some 266) (some 266),
    row "clock_adjtime64" (some 405) none (some 405) none none,
    row "clock_getres" (some 266) (some 229) (some 264) (some 114) (some 114),
    row "clock_getres_time64" (some 406) none (some 406) none none,
    row "clock_gettime" (some 265) (some 228) (some 263) (some 113) (some 113),
    row "clock_gettime64" (some 403) none (some 403) none none,
    row "clock_nanosleep" (some 267) (some 230) (some 265) (some 115) (some 115),
    row "clock_nanosleep_time64" (some 407) none (some 407) none none,
    row "clock_settime" (some 264) (some 227) (some 262) (some 112) (some 112),
    row "clock_settime64" (some 404) none (some 404) none none,
    row "clone" (some 120) (some 56) (some 120) (some 220) (some 220),
    row "clone3" (some 435) (some 435) (some 435) (some 435) (some 435),
    row "close" (some 6) (some 3) (some 6) (some 57) (some 57),
    row "close_range" (some 436) (some 436) (some 436) (some 436) (some 436),
    row "connect" (some 362) (some 42) (some 283) (some 203) (some 203),
    row "copy_file_range" (some 377) (some 326) (some 391) (some 285) (some 285),
    row "creat" (some 8) (some 85) (some 8) none none,
    row "create_module" (some 127) (some 174) none none none,
    row "delete_module" (some 129) (some 176) (some 129) (some 106) (some 106),
    row "dup" (some 41) (some 32) (some 41) (some 23) (some 23),
    row "dup2" (some 63) (some 33) (some 63) none none,
    row "dup3" (some 330) (some 292) (some 358) (some 24) (some 24),
    row "epoll_create" (some 254) (some 213) (some 250) none none,
    row "epoll_create1" (some 329) (some 291) (some 357) (some 20) (some 20),
    row "epoll_ctl" (some 255) (some 233) (some 251) (some 21) (some 21),
    row "epoll_ctl_old" none (some 214) none none none,
    row "epoll_pwait" (some 319) (some 281) (some 346) (some 22) (some 22),
    row "epoll_pwait2" (some 441) (some 441) (some 441) (some 441) (some 441),
    row "epoll_wait" (some 256) (some 232) (some 252) none none,
    row "epoll_wait_old" none (some 215) none none none,
    row "eventfd" (some 323) (some 284) (some 351) none none,
    row "eventfd2" (some 328) (some 290) (some 356) (some 19) (some 19),
    row "execve" (some 11) (some 59) (some 11) (some 221) (some 221),
    row "execveat" (some 358) (some 322) (some 387) (some 281) (some 281),
    row "exit" (some 1) (some 60) (some 1) (some 93) (some 93),
    row "exit_group" (some 252) (some 231) (some 248) (some 94) (some 94),
    row "faccessat" (some 307) (some 269) (some 334) (some 48) (some 48),
    row "faccessat2" (some 439) (some 439) (some 439) (some 439) (some 439),
    row "fadvise64" (some 250) (some 221) none (some 223) (some 223),
    row "fadvise64_64" (some 272) none none none none,
    row "fallocate" (some 324) (some 285) (some 352) (some 47) (some 47),
    row "fanotify_init" (some 338) (some 300) (some 367) (some 262) (some 262),
    row "fanotify_mark" (some 339) (some 301) (some 368) (some 263) (some 263),
    row "fchdir" (some 133) (some 81) (some 133) (some 50) (some 50),
    row "fchmod" (some 94) (some 91) (some 94) (some 52) (some 52),
    row "fchmodat" (some 306) (some 268) (some 333) (some 53) (some 53),
    row "fchmodat2" (some 452) (some 452) (some 452) (some 452) (some 452),
    row "fchown" (some 95) (some 93) (some 95) (some 55) (some 55),
    row "fchown32" (some 207) none (some 207) none none,
    row "fchownat" (some 298) (some 260) (some 325) (some 54) (some 54),
    row "fcntl" (some 55) (some 72) (some 55) (some 25) (some 25),
    row "fcntl64" (some 221) none (some 221) none none,
    row "fdatasync" (some 148) (some 75) (some 148) (some 83) (some 83),
    row "fgetxattr" (some 231) (some 193) (some 231) (some 10) (some 10),
    row "file_getattr" (some 468) (some 468) (some 468) (some 468) (some 468),
    row "file_setattr" (some 469) (some 469) (some 469) (some 469) (some 469),
    row "finit_module" (some 350) (some 313) (some 379) (some 273) (some 273),
    row "flistxattr" (some 234) (some 196) (some 234) (some 13) (some 13),
    row "flock" (some 143) (some 73) (some 143) (some 32) (some 32),
    row "fork" (some 2) (some 57) (some 2) none none,
    row "fremovexattr" (some 237) (some 199) (some 237) (some 16) (some 16),
    row "fsconfig" (some 431) (some 431) (some 431) (some 431) (some 431),
    row "fsetxattr" (some 228) (some 190) (some 228) (some 7) (some 7),
    row "fsmount" (some 432) (some 432) (some 432) (some 432) (some 432),
    row "fsopen" (some 430) (some 430) (some 430) (some 430) (some 430),
    row "fspick" (some 433) (some 433) (some 433) (some 433) (some 433),
    row "fstat" (some 108) (some 5) (some 108) (some 80) (some 80),
    row "fstat64" (some 197) none (some 197) none none,
    row "fstatat64" (some 300) none (some 327) none none,
    row "fstatfs" (some 100) (some 138) (some 100) (some 44) (some 44),
    row "fstatfs64" (some 269) none (some 267) none none,
    row "fsync" (some 118) (some 74) (some 118) (some 82) (some 82),
    row "ftime" (some 35) none none none none,
    row "ftruncate" (some 93) (some 77) (some 93) (some 46) (some 46),
    row "ftruncate64" (some 194) none (some 194) none none,
    row "futex" (some 240) (some 202) (some 240) (some 98) (some 98),
    row "futex_requeue" (some 456) (some 456) (some 456) (some 456) (some 456),
    row "futex_time64" (some 422) none (some 422) none none,
    row "futex_wait" (some 455) (some 455) (some 455) (some 455) (some 455),
    row "futex_waitv" (some 449) (some 449) (some 449) (some 449) (some 449),
    row "futex_wake" (some 454) (some 454) (some 454) (some 454) (some 454),
    row "futimesat" (some 299) (some 261) (some 326) none none,
    row "get_kernel_syms" (some 130) (some 177) none none none,
    row "get_mempolicy" (some 275) (some 239) (some 320) (some 236) (some 236),
    row "get_robust_list" (some 312) (some 274) (some 339) (some 100) (some 100),
    row "get_thread_area" (some 244) (some 211) none none none,
    row "getcpu" (some 318) (some 309) (some 345) (some 168) (some 168),
    row "getcwd" (some 183) (some 79) (some 183) (some 17) (some 17),
    row "getdents" (some 141) (some 78) (some 141) none none,
    row "getdents64" (some 220) (some 217) (some 217) (some 61) (some 61),
    row "getegid" (some 50) (some 108) (some 50) (some 177) (some 177),
    row "getegid32" (some 202) none (some 202) none none,
    row "geteuid" (some 49) (some 107) (some 49) (some 175) (some 175),
    row "geteuid32" (some 201) none (some 201) none none,
    row "getgid" (some 47) (some 104) (some 47) (some 176) (some 176),
    row "getgid32" (some 200) none (some 200) none none,
    row "getgroups" (some 80) (some 115) (some 80) (some 158) (some 158),
    row "getgroups32" (some 205) none (some 205) none none,
    row "getitimer" (some 105) (some 36) (some 105) (some 102) (some 102),
    row "getpeername" (some 368) (some 52) (some 287) (some 205) (some 205),
    row "getpgid" (some 132) (some 121) (some 132) (some 155) (some 155),
    row "getpgrp" (some 65) (some 111) (some 65) none none,
    row "getpid" (some 20) (some 39) (some 20) (some 172) (some 172),
    row "getpmsg" (some 188) (some 181) none none none,
    row "getppid" (some 64) (some 110) (some 64) (some 173) (some 173),
    row "getpriority" (some 96) (some 140) (some 96) (some 141) (some 141),
    row "getrandom" (some 355) (some 318) (some 384) (some 278) (some 278),
    row "getresgid" (some 171) (some 120) (some 171) (some 150) (some 150),
    row "getresgid32" (some 211) none (some 211) none none,
    row "getresuid" (some 165) (some 118) (some 165) (some 148) (some 148),
    row "getresuid32" (some 209) none (some 209) none none,
    row "getrlimit" (some 76) (some 97) none (some 163) (some 163),
    row "getrusage" (some 77) (some 98) (some 77) (some 165) (some 165),
    row "getsid" (some 147) (some 124) (some 147) (some 156) (some 156),
    row "getsockname" (some 367) (some 51) (some 286) (some 204) (some 204),
    row "getsockopt" (some 365) (some 55) (some 295) (some 209) (some 209),
    row "gettid" (some 224) (some 186) (some 224) (some 178) (some 178),
    row "gettimeofday" (some 78) (some 96) (some 78) (some 169) (some 169),
    row "getuid" (some 24) (some 102) (some 24) (some 174) (some 174),
    row "getuid32" (some 199) none (some 199) none none,
    row "getxattr" (some 229) (some 191) (some 229) (some 8) (some 8),
    row "getxattrat" (some 464) (some 464) (some 464) (some 464) (some 464),
    row "gtty" (some 32) none none none none,
    row "idle" (some 112) none none none none,
    row "init_module" (some 128) (some 175) (some 128) (some 105) (some 105),
    row "inotify_add_watch" (some 292) (some 254) (some 317) (some 27) (some 27),
    row "inotify_init" (some 291) (some 253) (some 316) none none,
    row "inotify_init1" (some 332) (some 294) (some 360) (some 26) (some 26),
    row "inotify_rm_watch" (some 293) (some 255) (some 318) (some 28) (some 28),
    row "io_cancel" (some 249) (some 210) (some 247) (some 3) (some 3),
    row "io_destroy" (some 246) (some 207) (some 244) (some 1) (some 1),
    row "io_getevents" (some 247) (some 208) (some 245) (some 4) (some 4),
    row "io_pgetevents" (some 385) (some 333) (some 399) (some 292) (some 292),
    row "io_pgetevents_time64" (some 416) none (some 416) none none,
    row "io_setup" (some 245) (some 206) (some 243) (some 0) (some 0),
    row "io_submit" (some 248) (some 209) (some 246) (some 2) (some 2),
    row "io_uring_enter" (some 426) (some 426) (some 426) (some 426) (some 426),
    row "io_uring_register" (some 427) (some 427) (some 427) (some 427) (some 427),
    row "io_uring_setup" (some 425) (some 425) (some 425) (some 425) (some 425),
    row "ioctl" (some 54) (some 16) (some 54) (some 29) (some 29),
    row "ioperm" (some 101) (some 173) none none none,
    row "iopl" (some 110) (some 172) none none none,
    row "ioprio_get" (some 290) (some 252) (some 315) (some 31) (some 31),
    row "ioprio_set" (some 289) (some 251) (some 314) (some 30) (some 30),
    row "ipc" (some 117) none none none none,
    row "kcmp" (some 349) (some 312) (some 378) (some 272) (some 272),
    row "kexec_file_load" none (some 320) (some 401) (some 294) (some 294),
    row "kexec_load" (some 283) (some 246) (some 347) (some 104) (some 104),
    row "keyctl" (some 288) (some 250) (some 311) (some 219) (some 219),
    row "kill" (some 37) (some 62) (some 37) (some 129) (some 129),
    row "landlock_add_rule" (some 445) (some 445) (some 445) (some 445) (some 445),
    row "landlock_create_ruleset" (some 444) (some 444) (some 444) (some 444) (some 444),
    row "landlock_restrict_self" (some 446) (some 446) (some 446) (some 446) (some 446),
    row "lchown" (some 16) (some 94) (some 16) none none,
    row "lchown32" (some 198) none (some 198) none none,
    row "lgetxattr" (some 230) (some 192) (some 230) (some 9) (some 9),
    row "link" (some 9) (some 86) (some 9) none none,
    row "linkat" (some 303) (some 265) (some 330) (some 37) (some 37),
    row "listen" (some 363) (some 50) (some 284) (some 201) (some 201),
    row "listmount" (some 458) (some 458) (some 458) (some 458) (some 458),
    row "listxattr" (some 232) (some 194) (some 232) (some 11) (some 11),
    row "listxattrat" (some 465) (some 465) (some 465) (some 465) (some 465),
    row "llistxattr" (some 233) (some 195) (some 233) (some 12) (some 12),
    row "lock" (some 53) none none none none,
    row "lookup_dcookie" (some 253) (some 212) (some 249) (some 18) (some 18),
    row "lremovexattr" (some 236) (some 198) (some 236) (some 15) (some 15),
    row "lseek" (some 19) (some 8) (some 19) (some 62) (some 62),
    row "lsetxattr" (some 227) (some 189) (some 227) (some 6) (some 6),
    row "lsm_get_self_attr" (some 459) (some 459) (some 459) (some 459) (some 459),
    row "lsm_list_modules" (some 461) (some 461) (some 461) (some 461) (some 461),
    row "lsm_set_self_attr" (some 460) (some 460) (some 460) (some 460) (some 460),
    row "lstat" (some 107) (some 6) (some 107) none none,
    row "lstat64" (some 196) none (some 196) none none,
    row "madvise" (some 219) (some 28) (some 220) (some 233) (some 233),
    row "map_shadow_stack" none (some 453) none (some 453) (some 453),
    row "mbind" (some 274) (some 237) (some 319) (some 235) (some 235),
    row "membarrier" (some 375) (some 324) (some 389) (some 283) (some 283),
    row "memfd_create" (some 356) (some 319) (some 385) (some 279) (some 279),
    row "memfd_secret" (some 447) (some 447) (some 447) (some 447) (some 447),
    row "migrate_pages" (some 294) (some 256) (some 400) (some 238) (some 238),
    row "mincore" (some 218) (some 27) (some 219) (some 232) (some 232),
    row "mkdir" (some 39) (some 83) (some 39) none none,
    row "mkdirat" (some 296) (some 258) (some 323) (some 34) (some 34),
    row "mknod" (some 14) (some 133) (some 14) none none,
    row "mknodat" (some 297) (some 259) (some 324) (some 33) (some 33),
    row "mlock" (some 150) (some 149) (some 150) (some 228) (some 228),
    row "mlock2" (some 376) (some 325) (some 390) (some 284) (some 284),
    row "mlockall" (some 152) (some 151) (some 152) (some 230) (some 230),
    row "mmap" (some 90) (some 9) none (some 222) (some 222),
    row "mmap2" (some 192) none (some 192) none none,
    row "modify_ldt" (some 123) (some 154) none none none,
    row "mount" (some 21) (some 165) (some 21) (some 40) (some 40),
    row "mount_setattr" (some 442) (some 442) (some 442) (some 442) (some 442),
    row "move_mount" (some 429) (some 429) (some 429) (some 429) (some 429),
    row "move_pages" (some 317) (some 279) (some 344) (some 239) (some 239),
    row "mprotect" (some 125) (some 10) (some 125) (some 226) (some 226),
    row "mpx" (some 56) none none none none,
    row "mq_getsetattr" (some 282) (some 245) (some 279) (some 185) (some 185),
    row "mq_notify" (some 281) (some 244) (some 278) (some 184) (some 184),
    row "mq_open" (some 277) (some 240) (some 274) (some 180) (some 180),
    row "mq_timedreceive" (some 280) (some 243) (some 277) (some 183) (some 183),
    row "mq_timedreceive_time64" (some 419) none (some 419) none none,
    row "mq_timedsend" (some 279) (some 242) (some 276) (some 182) (some 182),
    row "mq_timedsend_time64" (some 418) none (some 418) none none,
    row "mq_unlink" (some 278) (some 241) (some 275) (some 181) (some 181),
    row "mremap" (some 163) (some 25) (some 163) (some 216) (some 216),
    row "mseal" (some 462) (some 462) (some 462) (some 462) (some 462),
    row "msgctl" (some 402) (some 71) (some 304) (some 187) (some 187),
    row "msgget" (some 399) (some 68) (some 303) (some 186) (some 186),
    row "msgrcv" (some 401) (some 70) (some 302) (some 188) (some 188),
    row "msgsnd" (some 400) (some 69) (some 301) (some 189) (some 189),
    row "msync" (some 144) (some 26) (some 144) (some 227) (some 227),
    row "munlock" (some 151) (some 150) (some 151) (some 229) (some 229),
    row "munlockall" (some 153) (some 152) (some 153) (some 231) (some 231),
    row "munmap" (some 91) (some 11) (some 91) (some 215) (some 215),
    row "name_to_handle_at" (some 341) (some 303) (some 370) (some 264) (some 264),
    row "nanosleep" (some 162) (some 35) (some 162) (some 101) (some 101),
    row "newfstatat" none (some 262) none (some 79) (some 79),
    row "nfsservctl" (some 169) (some 180) (some 169) (some 42) (some 42),
    row "nice" (some 34) none (some 34) none none,
    row "oldfstat" (some 28) none none none none,
    row "oldlstat" (some 84) none none none none,
    row "oldolduname" (some 59) none none none none,
    row "oldstat" (some 18) none none none none,
    row "olduname" (some 109) none none none none,
    row "open" (some 5) (some 2) (some 5) none none,
    row "open_by_handle_at" (some 342) (some 304) (some 371) (some 265) (some 265),
    row "open_tree" (some 428) (some 428) (some 428) (some 428) (some 428),
    row "open_tree_attr" (some 467) (some 467) (some 467) (some 467) (some 467),
    row "openat" (some 295) (some 257) (some 322) (some 56) (some 56),
    row "openat2" (some 437) (some 437) (some 437) (some 437) (some 437),
    row "pause" (some 29) (some 34) (some 29) none none,
    row "pciconfig_iobase" none none (some 271) none none,
    row "pciconfig_read" none none (some 272) none none,
    row "pciconfig_write" none none (some 273) none none,
    row "perf_event_open" (some 336) (some 298) (some 364) (some 241) (some 241),
    row "personality" (some 136) (some 135) (some 136) (some 92) (some 92),
    row "pidfd_getfd" (some 438) (some 438) (some 438) (some 438) (some 438),
    row "pidfd_open" (some 434) (some 434) (some 434) (some 434) (some 434),
    row "pidfd_send_signal" (some 424) (some 424) (some 424) (some 424) (some 424),
    row "pipe" (some 42) (some 22) (some 42) none none,
    row "pipe2" (some 331) (some 293) (some 359) (some 59) (some 59),
    row "pivot_root" (some 217) (some 155) (some 218) (some 41) (some 41),
    row "pkey_alloc" (some 381) (some 330) (some 395) (some 289) (some 289),
    row "pkey_free" (some 382) (some 331) (some 396) (some 290) (some 290),
    row "pkey_mprotect" (some 380) (some 329) (some 394) (some 288) (some 288),
    row "poll" (some 168) (some 7) (some 168) none none,
    row "ppoll" (some 309) (some 271) (some 336) (some 73) (some 73),
    row "ppoll_time64" (some 414) none (some 414) none none,
    row "prctl" (some 172) (some 157) (some 172) (some 167) (some 167),
    row "pread64" (some 180) (some 17) (some 180) (some 67) (some 67),
    row "preadv" (some 333) (some 295) (some 361) (some 69) (some 69),
    row "preadv2" (some 378) (some 327) (some 392) (some 286) (some 286),
    row "prlimit64" (some 340) (some 302) (some 369) (some 261) (some 261),
    row "process_madvise" (some 440) (some 440) (some 440) (some 440) (some 440),
    row "process_mrelease" (some 448) (some 448) (some 448) (some 448) (some 448),
    row "process_vm_readv" (some 347) (some 310) (some 376) (some 270) (some 270),
    row "process_vm_writev" (some 348) (some 311) (some 377) (some 271) (some 271),
    row "prof" (some 44) none none none none,
    row "profil" (some 98) none none none none,
    row "pselect6" (some 308) (some 270) (some 335) (some 72) (some 72),
    row "pselect6_time64" (some 413) none (some 413) none none,
    row "ptrace" (some 26) (some 101) (some 26) (some 117) (some 117),
    row "putpmsg" (some 189) (some 182) none none none,
    row "pwrite64" (some 181) (some 18) (some 181) (some 68) (some 68),
    row "pwritev" (some 334) (some 296) (some 362) (some 70) (some 70),
    row "pwritev2" (some 379) (some 328) (some 393) (some 287) (some 287),
    row "query_module" (some 167) (some 178) none none none,
    row "quotactl" (some 131) (some 179) (some 131) (some 60) (some 60),
    row "quotactl_fd" (some 443) (some 443) (some 443) (some 443) (some 443),
    row "read" (some 3) (some 0) (some 3) (some 63) (some 63),
    row "readahead" (some 225) (some 187) (some 225) (some 213) (some 213),
    row "readdir" (some 89) none none none none,
    row "readlink" (some 85) (some 89) (some 85) none none,
    row "readlinkat" (some 305) (some 267) (some 332) (some 78) (some 78),
    row "readv" (some 145) (some 19) (some 145) (some 65) (some 65),
    row "reboot" (some 88) (some 169) (some 88) (some 142) (some 142),
    row "recv" none none (some 291) none none,
    row "recvfrom" (some 371) (some 45) (some 292) (some 207) (some 207),
    row "recvmmsg" (some 337) (some 299) (some 365) (some 243) (some 243),
    row "recvmmsg_time64" (some 417) none (some 417) none none,
    row "recvmsg" (some 372) (some 47) (some 297) (some 212) (some 212),
    row "remap_file_pages" (some 257) (some 216) (some 253) (some 234) (some 234),
    row "removexattr" (some 235) (some 197) (some 235) (some 14) (some 14),
    row "removexattrat" (some 466) (some 466) (some 466) (some 466) (some 466),
    row "rename" (some 38) (some 82) (some 38) none none,
    row "renameat" (some 302) (some 264) (some 329) (some 38) none,
    row "renameat2" (some 353) (some 316) (some 382) (some 276) (some 276),
    row "request_key" (some 287) (some 249) (some 310) (some 218) (some 218),
    row "restart_syscall" (some 0) (some 219) (some 0) (some 128) (some 128),
    row "riscv_hwprobe" none none none none (some 258),
    row "rmdir" (some 40) (some 84) (some 40) none none,
    row "rseq" (some 386) (some 334) (some 398) (some 293) (some 293),
    row "rt_sigaction" (some 174) (some 13) (some 174) (some 134) (some 134),
    row "rt_sigpending" (some 176) (some 127) (some 176) (some 136) (some 136),
    row "rt_sigprocmask" (some 175) (some 14) (some 175) (some 135) (some 135),
    row "rt_sigqueueinfo" (some 178) (some 129) (some 178) (some 138) (some 138),
    row "rt_sigreturn" (some 173) (some 15) (some 173) (some 139) (some 139),
    row "rt_sigsuspend" (some 179) (some 130) (some 179) (some 133) (some 133),
    row "rt_sigtimedwait" (some 177) (some 128) (some 177) (some 137) (some 137),
    row "rt_sigtimedwait_time64" (some 421) none (some 421) none none,
    row "rt_tgsigqueueinfo" (some 335) (some 297) (some 363) (some 240) (some 240),
    row "sched_get_priority_max" (some 159) (some 146) (some 159) (some 125) (some 125),
    row "sched_get_priority_min" (some 160) (some 147) (some 160) (some 126) (some 126),
    row "sched_getaffinity" (some 242) (some 204) (some 242) (some 123) (some 123),
    row "sched_getattr" (some 352) (some 315) (some 381) (some 275) (some 275),
    row "sched_getparam" (some 155) (some 143) (some 155) (some 121) (some 121),
    row "sched_getscheduler" (some 157) (some 145) (some 157) (some 120) (some 120),
    row "sched_rr_get_interval" (some 161) (some 148) (some 161) (some 127) (some 127),
    row "sched_rr_get_interval_time64" (some 423) none (some 423) none none,
    row "sched_setaffinity" (some 241) (some 203) (some 241) (some 122) (some 122),
    row "sched_setattr" (some 351) (some 314) (some 380) (some 274) (some 274),
    row "sched_setparam" (some 154) (some 142) (some 154) (some 118) (some 118),
    row "sched_setscheduler" (some 156) (some 144) (some 156) (some 119) (some 119),
    row "sched_yield" (some 158) (some 24) (some 158) (some 124) (some 124),
    row "seccomp" (some 354) (some 317) (some 383) (some 277) (some 277),
    row "security" none (some 185) none none none,
    row "select" (some 82) (some 23) none none none,
    row "semctl" (some 394) (some 66) (some 300) (some 191) (some 191),
    row "semget" (some 393) (some 64) (some 299) (some 190) (some 190),
    row "semop" none (some 65) (some 298) (some 193) (some 193),
    row "semtimedop" none (some 220) (some 312) (some 192) (some 192),
    row "semtimedop_time64" (some 420) none (some 420) none none,
    row "send" none none (some 289) none none,
    row "sendfile" (some 187) (some 40) (some 187) (some 71) (some 71),
    row "sendfile64" (some 239) none (some 239) none none,
    row "sendmmsg" (some 345) (some 307) (some 374) (some 269) (some 269),
    row "sendmsg" (some 370) (some 46) (some 296) (some 211) (some 211),
    row "sendto" (some 369) (some 44) (some 290) (some 206) (some 206),
    row "set_mempolicy" (some 276) (some 238) (some 321) (some 237) (some 237),
    row "set_mempolicy_home_node" (some 450) (some 450) (some 450) (some 450) (some 450),
    row "set_robust_list" (some 311) (some 273) (some 338) (some 99) (some 99),
    row "set_thread_area" (some 243) (some 205) none none none,
    row "set_tid_address" (some 258) (some 218) (some 256) (some 96) (some 96),
    row "setdomainname" (some 121) (some 171) (some 121) (some 162) (some 162),
    row "setfsgid" (some 139) (some 123) (some 139) (some 152) (some 152),
    row "setfsgid32" (some 216) none (some 216) none none,
    row "setfsuid" (some 138) (some 122) (some 138) (some 151) (some 151),
    row "setfsuid32" (some 215) none (some 215) none none,
    row "setgid" (some 46) (some 106) (some 46) (some 144) (some 144),
    row "setgid32" (some 214) none (some 214) none none,
    row "setgroups" (some 81) (some 116) (some 81) (some 159) (some 159),
    row "setgroups32" (some 206) none (some 206) none none,
    row "sethostname" (some 74) (some 170) (some 74) (some 161) (some 161),
    row "setitimer" (some 104) (some 38) (some 104) (some 103) (some 103),
    row "setns" (some 346) (some 308) (some 375) (some 268) (some 268),
    row "setpgid" (some 57) (some 109) (some 57) (some 154) (some 154),
    row "setpriority" (some 97) (some 141) (some 97) (some 140) (some 140),
    row "setregid" (some 71) (some 114) (some 71) (some 143) (some 143),
    row "setregid32" (some 204) none (some 204) none none,
    row "setresgid" (some 170) (some 119) (some 170) (some 149) (some 149),
    row "setresgid32" (some 210) none (some 210) none none,
    row "setresuid" (some 164) (some 117) (some 164) (some 147) (some 147),
    row "setresuid32" (some 208) none (some 208) none none,
    row "setreuid" (some 70) (some 113) (some 70) (some 145) (some 145),
    row "setreuid32" (some 203) none (some 203) none none,
    row "setrlimit" (some 75) (some 160) (some 75) (some 164) (some 164),
    row "setsid" (some 66) (some 112) (some 66) (some 157) (some 157),
    row "setsockopt" (some 366) (some 54) (some 294) (some 208) (some 208),
    row "settimeofday" (some 79) (some 164) (some 79) (some 170) (some 170),
    row "setuid" (some 23) (some 105) (some 23) (some 146) (some 146),
    row "setuid32" (some 213) none (some 213) none none,
    row "setxattr" (some 226) (some 188) (some 226) (some 5) (some 5),
    row "setxattrat" (some 463) (some 463) (some 463) (some 463) (some 463),
    row "sgetmask" (some 68) none none none none,
    row "shmat" (some 397) (some 30) (some 305) (some 196) (some 196),
    row "shmctl" (some 396) (some 31) (some 308) (some 195) (some 195),
    row "shmdt" (some 398) (some 67) (some 306) (some 197) (some 197),
    row "shmget" (some 395) (some 29) (some 307) (some 194) (some 194),
    row "shutdown" (some 373) (some 48) (some 293) (some 210) (some 210),
    row "sigaction" (some 67) none (some 67) none none,
    row "sigaltstack" (some 186) (some 131) (some 186) (some 132) (some 132),
    row "signal" (some 48) none none none none,
    row "signalfd" (some 321) (some 282) (some 349) none none,
    row "signalfd4" (some 327) (some 289) (some 355) (some 74) (some 74),
    row "sigpending" (some 73) none (some 73) none none,
    row "sigprocmask" (some 126) none (some 126) none none,
    row "sigreturn" (some 119) none (some 119) none none,
    row "sigsuspend" (some 72) none (some 72) none none,
    row "socket" (some 359) (some 41) (some 281) (some 198) (some 198),
    row "socketcall" (some 102) none none none none,
    row "socketpair" (some 360) (some 53) (some 288) (some 199) (some 199),
    row "splice" (some 313) (some 275) (some 340) (some 76) (some 76),
    row "ssetmask" (some 69) none none none none,
    row "stat" (some 106) (some 4) (some 106) none none,
    row "stat64" (some 195) none (some 195) none none,
    row "statfs" (some 99) (some 137) (some 99) (some 43) (some 43),
    row "statfs64" (some 268) none (some 266) none none,
    row "statmount" (some 457) (some 457) (some 457) (some 457) (some 457),
    row "statx" (some 383) (some 332) (some 397) (some 291) (some 291),
    row "stime" (some 25) none none none none,
    row "stty" (some 31) none none none none,
    row "swapoff" (some 115) (some 168) (some 115) (some 225) (some 225),
    row "swapon" (some 87) (some 167) (some 87) (some 224) (some 224),
    row "symlink" (some 83) (some 88) (some 83) none none,
    row "symlinkat" (some 304) (some 266) (some 331) (some 36) (some 36),
    row "sync" (some 36) (some 162) (some 36) (some 81) (some 81),
    row "sync_file_range" (some 314) (some 277) none (some 84) (some 84),
    row "syncfs" (some 344) (some 306) (some 373) (some 267) (some 267),
    row "sysfs" (some 135) (some 139) (some 135) none none,
    row "sysinfo" (some 116) (some 99) (some 116) (some 179) (some 179),
    row "syslog" (some 103) (some 103) (some 103) (some 116) (some 116),
    row "tee" (some 315) (some 276) (some 342) (some 77) (some 77),
    row "tgkill" (some 270) (some 234) (some 268) (some 131) (some 131),
    row "time" (some 13) (some 201) none none none,
    row "timer_create" (some 259) (some 222) (some 257) (some 107) (some 107),
    row "timer_delete" (some 263) (some 226) (some 261) (some 111) (some 111),
    row "timer_getoverrun" (some 262) (some 225) (some 260) (some 109) (some 109),
    row "timer_gettime" (some 261) (some 224) (some 259) (some 108) (some 108),
    row "timer_gettime64" (some 408) none (some 408) none none,
    row "timer_settime" (some 260) (some 223) (some 258) (some 110) (some 110),
    row "timer_settime64" (some 409) none (some 409) none none,
    row "timerfd_create" (some 322) (some 283) (some 350) (some 85) (some 85),
    row "timerfd_gettime" (some 326) (some 287) (some 354) (some 87) (some 87),
    row "timerfd_gettime64" (some 410) none (some 410) none none,
    row "timerfd_settime" (some 325) (some 286) (some 353) (some 86) (some 86),
    row "timerfd_settime64" (some 411) none (some 411) none none,
    row "times" (some 43) (some 100) (some 43) (some 153) (some 153),
    row "tkill" (some 238) (some 200) (some 238) (some 130) (some 130),
    row "truncate" (some 92) (some 76) (some 92) (some 45) (some 45),
    row "truncate64" (some 193) none (some 193) none none,
    row "tuxcall" none (some 184) none none none,
    row "ugetrlimit" (some 191) none (some 191) none none,
    row "ulimit" (some 58) none none none none,
    row "umask" (some 60) (some 95) (some 60) (some 166) (some 166),
    row "umount" (some 22) none none none none,
    row "umount2" (some 52) (some 166) (some 52) (some 39) (some 39),
    row "uname" (some 122) (some 63) (some 122) (some 160) (some 160),
    row "unlink" (some 10) (some 87) (some 10) none none,
    row "unlinkat" (some 301) (some 263) (some 328) (some 35) (some 35),
    row "unshare" (some 310) (some 272) (some 337) (some 97) (some 97),
    row "uretprobe" none (some 335) none none none,
    row "uselib" (some 86) (some 134) (some 86) none none,
    row "userfaultfd" (some 374) (some 323) (some 388) (some 282) (some 282),
    row "ustat" (some 62) (some 136) (some 62) none none,
    row "utime" (some 30) (some 132) none none none,
    row "utimensat" (some 320) (some 280) (some 348) (some 88) (some 88),
    row "utimensat_time64" (some 412) none (some 412) none none,
    row "utimes" (some 271) (some 235) (some 269) none none,
    row "vfork" (some 190) (some 58) (some 190) none none,
    row "vhangup" (some 111) (some 153) (some 111) (some 58) (some 58),
    row "vm86" (some 166) none none none none,
    row "vm86old" (some 113) none none none none,
    row "vmsplice" (some 316) (some 278) (some 343) (some 75) (some 75),
    row "vserver" (some 273) (some 236) (some 313) none none,
    row "wait4" (some 114) (some 61) (some 114) (some 260) (some 260),
    row "waitid" (some 284) (some 247) (some 280) (some 95) (some 95),
    row "waitpid" (some 7) none none none none,
    row "write" (some 4) (some 1) (some 4) (some 64) (some 64),
    row "writev" (some 146) (some 20) (some 146) (some 66) (some 66)
  ]

end SyscallFilter.Syscall
