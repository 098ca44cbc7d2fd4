import Mathlib.Data.Int.Notation

/-!
# Error numbers

The numbers of the kernel's errors. A call that fails returns one of them with its sign changed.
-/

namespace GsKernel

def EPERM : Int := 1
def ENOENT : Int := 2
def EIO : Int := 5
def EAGAIN : Int := 11
def ENOMEM : Int := 12
def EACCES : Int := 13
def EFAULT : Int := 14
def EBUSY : Int := 16
def EEXIST : Int := 17
def ENODEV : Int := 19
def EINVAL : Int := 22
def ENOSPC : Int := 28
def ERANGE : Int := 34
def EDEADLK : Int := 35
def ENODATA : Int := 61
def ETIME : Int := 62
def EBADMSG : Int := 74
def EOVERFLOW : Int := 75
def EOPNOTSUPP : Int := 95
def ETIMEDOUT : Int := 110
def EALREADY : Int := 114
def ECANCELED : Int := 125
def EOWNERDEAD : Int := 130
def ENOTRECOVERABLE : Int := 131
def EPROBE_DEFER : Int := 517

end GsKernel
