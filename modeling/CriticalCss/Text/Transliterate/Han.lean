import CriticalCss.Text.Packed
import CriticalCss.Text.Encoding.Gbk
/-!
# Readings of the Han characters

Each Han character of the unified block (U+4E00 to U+9FA5) and of its first
extension (U+3400 to U+4DB5) is spelled by its Mandarin reading in pinyin,
without tone and with `ü` written `u`, capitalised and followed by a blank:
`中` is `Zhong `, `女` is `Nu `. A character without a reading is spelled by
the empty text.

The readings are stored as their positions in `hanSyllables`, position `0`
being the empty reading. The first level of GB2312 lists its characters in
alphabetical order of reading, so most of their readings are given by how many
of them each syllable reads (`hanPlacedCounts`); the few that stand out of
that order are listed apart (`hanOutOfPlace`). The readings of the other
characters of the unified block follow in order of code point, range coded
(`CriticalCss.Text.unrangeIn`). No character of the extension has a reading.

## Main definitions

* `hanSyllables`: the readings that occur.
* `hanSpelling`: the spelling of a Han character.
-/

namespace CriticalCss.Text

/-- The readings of Han characters, in alphabetical order after the empty
reading, separated by blanks and range coded (`CriticalCss.Text.unrange`). -/
def hanSyllables : Array String :=
  (" " ++ unrange 1722 (String.join [
    "NqA##luhoSuQ[X:WHbn_[Di<;Hvp2d/AuX V8#Q+.v,29oT?Qtub#PS_oGKD'EP#C%2WSo3ul&s2,'N@O1$63ba|C|7W9s()SL9@Y9XH|.00A[Y=l9[vbpXdX=p/v9)6)_=i]PMs'N``GjikTpH@T[^UBW*0oDEd#QC:WamDYKMbQ:j!,ce|/)r7nLAH:iwub,:,4Z$'fN!c^RViPSg0di`61`edtEraqUzhwHfDss;_iY&'L5?yrat=DxyId:KxaeEy79d!b3gsYj2]OYLW67T#PyZc+=_d|` ;YjwBGk9/Ev!Oin eI'3ibs43%CL[]h>B|ZYGNkC$4TCkP #j9brmC%ZOq]?)3BYq;Rd(sgRI;%2[c#Y'0)<V7i1T=H= D.[hv|FCW? GXazkC4w;5-Rl`TC!|]32y|N]z :B^e2#NmI?b>w,zX<%Hj&GPNk1fhuUjGsQBvpqi<YL'BXJ|ut r8dX^g:bN0EDM:@L>l'3GUYVj/^F'H2<=Tiyr0<UMIT!m>L4eI[^`c`%[10mKnTY6qz.9CBx_1IBD3uy!.%Pkk!N=Qt 4X%[KO 3k>(I#h+1gd$*=$sLbc&bkA#Nu^'[h,q-LG|9dz*n71w1nnl88Y6w+larL7-!KcUH8;Yl&R5iI(g2]UT3[[/CUj [&i)*#^0cxD'YuqoG=:DMzbq$66?:DzlP8|,S/aAFE&dz3^([_Jjtfhs3io&sVdBdCk^$v]4,(Xs'D'Z649kK0(GUx5UQkXzEyPFa8 wya,:MJ)a/gvuZxX?4.`9dIX;VEm,zvW.jB(An36%2f$Lto.:`.;p3kF|mZP|g.Gi7XKg58H(L8%Dt(,P)!Hxh[ @)7m9u,m&f)'XUQb[[&7,S'PH?#+&>rSurE0Vg?;$=W "])).splitOn " " |>.toArray

/-- The characters of the first level of GB2312, in its order: 94 a lead byte from 0xB0 on, with
the trail bytes from 0xA1 on. -/
def gbFirstLevel : List Char :=
  (List.range 3755).map fun i => gbkTable.getD ((47 + i / 94) * 190 + 96 + i % 94) ' '

/-- For each syllable after the empty reading, how many characters of `gbFirstLevel` in their
alphabetical place read it, as digits of `deltaDigits`. -/
def hanPlacedCounts : String :=
  String.join [
  "#.*$*3)0-10%'8-%%'*3,!,(&&& #,$*.*'+00&-1 !('&(#-'!%$)$''-0&-$ (4 1*(*!+)/'%*-. ! ))2,-00 !!M#',*+1!#(0*3'$,$1$'!(4$*1#%& *(3*&./6'+V2H.<:5:#2:(+,$&'(%/%#%%(&%#)+%%($0(*#+$C!/,,&-/, *'C'#(- *'*'-!1$)/*)#''!2$0'&$!&!#!!,(##(!'%% %!# %!('')&(*#/2%%#&*)!/E$6)0&,.#).,(#%&$#+#!+$+#$##$%%$%$!!*#1),-1,O+B#%#$%%%0)%-$,$)**3.,!%0)&$+.%,#'$+(#2+B+$*>D-;526+0(*3+'/1B200V13!05M5*-$(%$/%!!$-'10++10L,/:!!'(&#*0(%)#%#("]

/-- The places in `gbFirstLevel` of the characters out of alphabetical place, each by two digits of
`deltaDigits`, in base 90, after the place before. -/
def hanOutOfPlace : String :=
  "!$ Z X d c%e h!X + h!d H < +!G @ W a k !$'#6 Y!+#)!8#<!o U! $/ I Z ' ' 2!g - 0 - % Q"

/-- The readings of the characters of U+4E00 to U+9FA5 outside `gbFirstLevel` or out of place
there, in order, range coded. -/
def hanOthersCoded : String :=
  String.join [
  "BK-Iy5*wNnmLd-*axZ&vWjLP5;KzTu)7o?Z?)rfBZhHPIH1P92#vr^b%Rb>8Vp)!1]Kf|v>C`D0BOqPKJ9%c1`&|2Rhkw;SN;c*lI0n<_8zRIS3pCH !N?.AzN/1*&DdTlcFmGr<J8lleM_<Jiy@8$DTlC-yK_!x_in`%LcnP,+w'1WC7xLbMLq' &45UQrI1Z1hCft(sLilbv(op$1;_ATa D7L'j''(yid-q,0G)0W%%Us=OKfh0/O-=z rkQnGr=lcP >2KdH5UVf[?>O5&_RO=]ofrsoi4N1'n#VJWL?=(9lQKnh'u>Z[*sji3*p'>@Bxx>dlaV)UP8!Mx)y2:t #mw@H4&pf'RJv)-mlcNT7tWoGYiod+]Zgf99 10c+YJuecveBQ/OF0+XF'4[A26wN5^c9BwYZsoiE9M<f[';wm4E98x.:@*7/x%=&Pf#cn/x&X*'kD`?a[0YeUz$1M0#:Q(N]L=ryoF2V0.Jy-<Z@:W&KdFy>`d;!AFg,j^l*%m4JmAB[4|$v&-rP|M3.P7+H5t/^ke7(N UIg`t>-L;3DXvnG$4@JPhIMnaMP!FWp^ND,HGS?D7<6KnE19dSkaMRwkGtx8:Ws?oGhH!z=j[hn#NEx7AqX,^UJ,ds_.EVT<.xD@ga-xh=:Rn[&U0:13_IoT5uMj+*Z(%s=i)aUo!Bm+Og',>=wEx)G;lVA[Fbx8GmutE#);Q:,^*JEV=e_XJWR$`EHG>fU*Bc#9t iB$Bt7QjSA;.QJZ[/:=zeMQ0Us6v2@[Gpi;YKb7Gu[:Uh$3n5M>5R] uKjCC+q_`)Ok$Z,&y7;r*]`3?R|o <Qfzlgy/cTfultY^5Du8$TopRKl9uy%<hXhV,@nIW=.gx[?C.X)aVLT&.^=TDQ:Z^IC-37v`6awr)I>RPz:sa$GLUdT-CI:tvSxyI62B`%hTogWR@ccl8x'xb!q?f3Yb//,l=:E5-/NxJ_v?rE=a#`])SkDly:s(z'gLMA2C5&&",
  "GQ#1o^yWhW(_|C*.#w:vIa$xe#v+E@ow`NNAoq(L1p2U&&=eVx=V.9t724AntCD9DONtL?r<<8i.E4`P!.v>6:B)GwuZ?``%XNUJ< (9?A' ldJQMqawvlAxhxyHxZEhfUf9,Wh3#RD`pm5TJWV$Gnh4v!PO3hwt/M$F4KZpyi>]pa'A%OE$zwh2L!qeb56BESPdAR$l-4RG#7qK6,81X.I!Tu@q#bhTF/l_AxU@K^J%Fz2v/Y-4ZvdgJRfiz /+yB*4|1pZIKd7^[ly8|XN@)O|TiE2lOB<LA,pc[QV/bA&onhPEX_m7cAe^|sYO&#3DzSkjt%bI*/Xv[0UA@zA!t^%B55Vp|iUJje$Ti(ifuMmyrchpc%l$J%V%]!$R7r8ys4[f/CAZaW#BGgSf61tc;2oku8*M:U`&)O;]q^z&iU,6SEF'>Pm=;Im`]:lewKx;47TP5`N1]|uM^;)?d$0C8J*qd`OJJS3HZd6hVRgRHzxQtuF+ T 9L?8Z<|PGLk L$T>LIhTX<Hzx#5i2V&nua(U%<$v`DBk9v-QE36oRlh5W%ha_[/578CHcf[usHBBcY]dmf)v9zYQV/-4Zv)n8L^@?HeHqo;M_=L=Xd$MM!.J'=K`4w&v FP7!7cg)yf'WhDLxX-O8D5W/RvcD<wmu@]fhA07f++7)W[FH)?@ACgapPHFJ@XXrE+KUh,@v,sKslzZ6+?-#hIXob*Xs*wM>p4KC#'Ihq8/TP>iryb3+m58DQ9yCHp<v-'*Rx+lz#%]u+8=qF+pOPSZ.e,XDti42F]>fugtI'$^1B,Tx[c5g8+[F6UzYf.<x<5]v_'V/SDB!M'/C![Lu4F]t)G>?^ELsI.LIh-9e0WrXi(UXteW7(|*Nom$>9Lj*-YkeQ58$=p&@=8+1HO</6qSnGV,^$Tknj1_FtHfHuZHTPk5K!k3S3gCm|uC?YEo#or=`_?F$e@sq+Z#+hGDjj/[C(nZ+[5pyJVSnVb-hnoG'#p LvZE",
  "6t<$!<+r:q:P4HwO$u0/+yI[W =`C!5gk^ZHP!>:&xHJum]CwLcPs.BO:ju>DIc9OOj0vP+q2-Zc5|F8t#xjf);FM)*@ij.dK[@cEKUHLF$C<J*LUN/X1WX:''r(6UWUqza`lL<'_mfRaY[JT(,1<S]@'!F(Jc-O.G>Kx|9h6r<tIE,-m*4jY154$EyU]`?6R0vd1QM[)t`Dt5ID+8'Y-$l._'c3X1u]C,3k?PEjI-Xd&klLp[54B80t+eyVQ+'H[0%HTo%oH[E@f&|<3!Pt%nkh@3W,)47$aS--9+]-S'd:5BG'[Y_[rCZq)mbd%*Hoofj.aWm-l_8+D^j#B0@S+]nW:bWw q$Lz+Z,bC.asN/tJiU^*o>Js? XxX4k5@aITlP+1bT<'SJo7g.#lb&9VtA/kiXUGTJlG@HZtMVe- `DJ)6r0#&wbGa)YFKnT8mm7d=7UCTc@]y+c%e!U)!c[L]mkOL][VTOluek%O|v(:Js_ok?V?^lH|ucm_Jyl^aG*! Y4s^1qJcWpetdPt^'Rx,/s&&-U/'WGaKxzDsx+R<E]SVw&H3;oF..VOyvj5&9V-x*$,B'DL&XFg-gy9;Y>sqfe!7U(?I.&cJ&edly'kk=`)= ;1N./8,US_2,+<;]Oe)p#M<WBjU9z 5ZH7+G9cLh1@nJ-qm=GI;+JeVa+tc0WaJ'<y]C1_V`:=iK%[uzY&#CtR3Bz<a,#Og@r[UDOsTr.TqNT_='SD$7emUitl|[#9YOR7Xr';Mw*CY)I0o9IW3!XJ%Yd/Pq?A5vwzj)l%Vqsj0eftz9x=HP[sMMr=h<;<EA@u_%EGz)OQ%FhnSeC8fwgNdb1RaV5u9e'.Isp*./[Nqa51-8#OU&Gswd[p:Znj`>AmEFtBzfgvUlDsedD?O';dy&2z9r1D|.mcyvFJ5rT^PddA5Mkq>$S#G*`UbtEjl!iakZ+iv64^VvZiT*sWKJwR/Q1WOvk2zU>kT2Xmi ytSMDhZ):$`d4DeW",
  "Ch|kA?EYou9m'u/LC=D@&yfLM=lnVdh3+'%?;l:=j@;@m 1))lg'.Z.W669xCk[nEn7KA!x<m0)8Usq9hTWyH4>;]Z7CX@(4HEalQcs4Lk)GPB?-OEo5s-FL%38%LaU#(bBBL=<4QT>x]dP5A[`XD3R+#DXv#qx(*v$8^D=G@`DP0NKgg`;N73^jk>s;f-9X]ErZ`f/uO!x&DZ(:2KfF_i10*KaCVbK/D$iyx<d3!<uxr2.1jj71LN`)vOR.C;#O!bWu`tSj$ILq0.ztPoO%$R+Pp4m+^7U&6!h#xfrO_Z:|s&jvozLj4 ^l;::9aT|7 -ew0?l=r<0O/qE2?#7$F6;VoV'+ei)?45>ZBqEFnFwRP=kNI4tR#&DHUA*)p<<wH/d1Z[4ago6jGsj5B&wzj!<N%lUc]k;-Uh2-;:=j>B,=0,9`I3VgMEqB9E/m9/dxgw!3v:u`EvK)wCUT?kN/2M>ch;!47sI[uh&%[dysEP-l|/RG3G$<mzqR0RGV>FG_rt,Hx+P8XB,IuiVz8n1gM2w/c]mv(77XOgU$^**!zJg!.omvPPB9l]o y&<-4bYAJ714|78Rp]B`@Fx.bC.W7P_'h4CL:#4ESZ8T,lOa axhw$B3#% g6+l70n<&$[q]S>0is`W!7axg6oWOc'_*^7fo<]^E:%aR<5/_:$xRsmT*;5R@uJHrIUXGR1/8HbZvQrgW6@2Vj9FCo|B5W>9KxpmP>3hR+Avyu[X9mz<xhBhvfQwO_>O1^4=/otY%IN BK!_-WtN@USxM'N)xhSxDZanr4s[R7_ur$8-2x(0J w!OapVRZt$QFC^_V5_9,VyQYLiACEk1eMX2Ds/n6vibKL#mfY7WN+:?+BXMi/v^K;&$Iu0#bpC:w5eaxcZ+,[)V6GuD<G5^Zg'X<z3_!`(>;w?`^:=TA6-Jpmd3ZTuJ:%mz:#e&V7w/=!Qs%^S`.b'ghA .pOcq-BuU'OvS&.L^a3_'f!2oW#:U-56dDQ,a",
  "v>%2sBg<]|WNpVwRx;`f[ic,g/BO0Qjv2@j!aPGu3+v5-b2K@zq(nNJ%^:VA->7p,Vo+_B,p.28G+L6/ad@:; r@]SFXwUzFt-+A|&g ]HZj0 @R#qUcAJ_Sa$*w2uVsnT:L/yM@Jcb[cXPev#RM|pb[sxQ#f_Veb0dvDbI'2aLnb1>#*1=o4M/`+Z`HTfM*EMv:e'`'hetsIaI487Xxgdj:)N@9V)5%2||@- %1U*CBq@Dt@Ig&]4TMMA6KGXCQn4%kI$V%wrjd*H'z!3E/Z/s(9i`::he9>c$ePg#[p/dEm?(B)[#8bO`Twu_VJ6VYfx^rY`(Ti.&Z=;B^x<PWBjFHIBB0R^|Dc'uJhJUMG P7EwSNI ? <2z#lGvf<!/Ch^/jT;%qsWCiI5qtx%[i7kNvK=f9EdGA)+=|HRrAP^%3*v-%]L@3<pX!^[Q]6)lrhhPE0,CiV,m+ $II@Av8Vg,Y(t5b/d]wL4L3n9/2q lZ7,&o[5g59=LIRPb&.5PZEXY&b54Zxiu&%swWg9 '@W?*sFfG1rJTK<mT6g'5`^>3n3ockG.q#i|Vo@e(Ubl8,r YCVTOQ4<Q:fyogWV|wDflBVk$YmPa$wfjh/_9^t</zx7P' )$Eqhe!@<=IiD *0I!mj8M?R/s]-B8nNsZJCGT(b_$J*%R4G;L/7hGwGx:4v'@2Hgt,5]a|^55WqP4aV8)al9g`t(JUCnGI2W>ce#=en^OQFlu:2 9=Y5P_H#y+|fIX%W`C!*#k%rJ/@`iTWYiD`?RUv0;bYs7*MD48TF;o:<6r5li`jCXpybP,*r 9y8|*w.5!bu0.)h`?9t3wS7qw,sZ#1S_AJ9daE23<>U(2:QS;?W&M%2&)FbJsTwBT9qt7ZAS:A1CGe@B+_cM!!6$.02*>M$*,eI0KUkTZ02M=Cm;:x][=_5^ie1?adb^yb(I'-HB7*j`pOC #u+T|s-B2?V>5JK5Q5NdoGRML'8!%_z&+4D  #<a>0OQ",
  "6?JFgy*p^kgOC8CGpT;T7^26]r*pOU4>aF:GRL])hV[tu&5Kcb 44wGD2O/TZwW2;x_!q:U&O_hIc^uobAj)0u%^3DSQ*MhoFA68wrHwf+pqJ!1xy&Y9Z3i.D[d5=hT=l'eU|68*5q_2c@(U*OYH,8#UoufrdCMeuSXsl:@XI[!72t$IJN<myE3L'bneIy6jRb^lns:@Mn^C$yLoSuD>OrOc:-yMi@cO> >@?7^7IPGA;D-|,,RB%_fOk=dwOJl um_8#EB>n^F$Chl:7+ ca']c3sj`A<x_TvAm<@A0XTbbKyfF/64FlGHBbo%w./+,=p1tLBLLw20&0:k7qlU_ZLsgT|2/xwi<;M^;r2,QW<gWQ1Gd!eD=?_KBNg<_ hHb!YN>-dM,Qh)(dR!Etu^Y-]|xpA6Bi9%<tbyfaw>-Pv-ugE&EJ2jfO'EEH$Hmu=fP[S6%,OcG-']XJ)-_SX UM;n*Iv?lq%:|%f8]o)j%VK:# oE(%`mu7pJBhO86gK XSi(JJiDu|e[sZE+4hsuMG,7Yc[%l4B,Z? (KNiiYt1c-o?mE9S2bE|`pVfI&>bO,4VmSHW7)1FH`:W&S/hDEyV(V)J5DC&5'33yeNaQ#Y9no#rND2l87M_uYgF,|2Udgt>LO'nQ?.Vx8h2`$PZ5:l3@'G#BJ)&dV`d.5>Pk1U^;pq2AG=kO.vKG]6?5X,/jlanqQM'99xC+_V=.V`1x1N0P2eRpwlH:)fk4OH],f! +6CUEHCIUY50!h?QDs*!(-MIZzbZhQ,sz3Z)JZW'DR5zB:>pxM2o]F!uDlZ6!idfmB2gx;pG3M_.E|t?,cQJvM.qL4-3+(30)/z AZ5'mV!:6+;VJp].g$Fo>$tSsrBb]kBE_Pzh9(xGg71cg8`.`<U,Kn%3H&#%!c=secjJ0vL=|Jx(:t+M^>C.vuHl`VPzGV-xWc$!LJ[E$3-qri``Kxhd^Koi N67ySxXKu kulUvzR3fXRy(0|7s4b@1j0",
  "oGlM-*x@GvDCK?!wY6dU0y(!l^C@L6wGZH=^*ZN?Da!y;!wIjt?Y1Md0j$po4(*D9+XvE|%59O;%d[9T.O@>]0@iYSzgGcF;]x@UMVHtip'b+Hlm0&W`yjt!qEALld]fWJ09/'2=]-&dH1UUckq]?o5[3pbh:Wav0,DD(flbxl /Sxo(Ea/NlA0[@^C_As|''!X9td]8SpAL5.Wx7v9Gikpy$g%]Y08%j 40er*REk4&Au*!=A8OGA#!gDpG,kw0;!^TQDXOvVjdGXqZv7'zq?bHYbP2tfr#&MSo306Qp$xJ?k :0a3a4i9d?h|q.rK%Jl?RNocp`KE<l6'4!.H?gV|NZSske%`b!28+o['>k_VK1;BQY7ZePNl`8b0)!_H&=,HJN91e&6BZ:'tjbNK(^1s`kJ@Y>)L&4v@yfO|Y/oW>;1xB,P XBE2T`7K^P=XIZai^2#gktTKmxFrp;z9o!)(!OvZ_=KWBBvkLs];GmeNf60S;&@q8wQe>$%f^E1NCIoJ04Su9-35(WxlKp5-jQP4=#1Im$3n6#l,BA2_uh2*aheK0^U|LJ%bKqj&*xXJfmYVOQUoSW^=kgRdHsyq3FaGO>24H!@G(,hbN*B:LOIy>U|j/v:FnL.2]Iv6nsPp:OJ2e=`M$^Ul$*eL`[o:$07_s|ylORgSgFG^T)C@2DCJwz2Qlopu[-pz,O6scRPoB]EdDu^zP1F+rzNfWKWZi1_&0VL!G|]ypm2z]k/;L56lSyt<ZN/DM5`(Mg@Qfx 9Dbc8=**,=+l'AZczBx(E)P>,1<lS]?v>CIy:<i>_$Js,W+)rXizY+I.I:$>4?kz+=7A|Ox;0SjB;xd|-2Dus55n`_:Kj#oE&1qrkZ?!( ^Tc#.oEe_*uv*wmj84@Q=`qOE:2*PzLuLWx#ALZG!%ZjQ8Q-BO[NdExx_[=5:9f*P``;LGm^U78WZ:xpXOkp,Wtco<|oM``/m41&$?%C$IxyX:/;1Gc=k v@aC]g#'S:",
  "1L3-8_>2gU2uBkW:n=l8;1 SEl_QK0q:+$6kn%cc+hp4:<ns7f<@au!ki;#SEgBipE=0TO*>GWN/<]W:OUSMf',mj w!ap&7=?Nlu^K?Mcn KrHva|v(a C-<?uSW8<z4!.=?HajMgK83zFEy;Sg:M)SI<zKoxl'ekP@rt6=:igwuv M>0ppC5U_08GZ(]*egFgUS^x=Q)cU'Nuc)b^,U[;uY$CFWhqfN9|Dg/jWQ3LPW[cDxnaYmt0(FkD '&8^-=)WmJIaM)?WA!(<7!]ONDr5S.N1qdpPFx=3M-X2yO7&TckB`^.^%$2MzxIai9aB6l+,f+5y]fw8HVC*M$Rvr@k<H=RNVQCP:t&s<c``w/SQEDCh$1NPf'qZg#N]!dQ;!)op4=$Q>JOOB>(>I5jo06BAqLo`R+yp(kk]dA28]CL[OPKZ(W;h@*-I%;3f8>;lq`/s_x+/_$?H&(U-#UgaoN4$4'^q$99F(pIH&:<o/To5fZ_qnd5 C[S^csET3zB3HhQ,xk[aL*Ruv@#/U%mlmETV1LnNQUWc(rhBwi#gq:d57H][8=&2.Z<L!^&oVXd_,RbM@?,xi#^y*m%K9&Yq$R>:l:@L;|jz%'@;O[M=LYv!c=/9fQRXXr%/LF)0s9&5R<WZ^F^EtJttaZ1qahm6OS(K6zLCym<hINWNl8JlS 57xGAX4N*Fia%i97S|(ykG->+9F7S(/PqD@V4#Kdea7i1D5=9HD]ACkk r<dFM;emi`8Xw:rkOPtw-!_wp:y5:'43r^+INv$LcIUGnoo^%O)x(i?i*)9v<#'#VQdgEY[%3B]anOVj9NqVlW|Jp5&@Pq8>79H|TR,WZjlK<H8 uy_VS#[^f,sXJ/|i86)F6JZ++ul[UtC-UPI7R`X41dY;G %;E-Q_-^@7(8't`@=a2# p15vyU%F($;mn7]7QAKl`Ube;0L+iI5'%4sf:wf7p?JTGpz:kl-|^.C!n1n*9AYqg )2A@mE-,zSdCRTP&",
  "EV%Bc0YFXx8F12K E63'_S*Qh<q0&GHjOaaq xfU74g>)V`|I[<qEyp^lFo)>Pj*ue^&eV384lO8n)<;NOY:3FpYa!e'jERGHPkKb4+FSXn=xt7J*^c:_ JFq4dap_h3GS'X8)KY >r(o<JqiY8(!Any(SSOUVq`HZs+@?q1E&BE$kAv.pM.Pk[6(u$KIx,G!,[$Q.ciCYQM4TFZK!vqdb'#o4p$9rlRfjHC9&wm;)0q%lor<QM!.9(<hq`2jbs^;lO>A$kL/SNZVKYL?W>JL0A;f%Q,-q!O'1q9$T3d9<T=tOAzS)$#XGwrqi>]!`juED;c1;);'JDA[q j'Im(gR^B29FNPM(n7]Q+hZyzb^GFjSb`,[rn<d@>SJ,RJNrc44Fcpz8OJs 2U)#y=vz35%,#jU&l`I&52z6 9D(g<|VpFaaWrF<vt,n&'+Xec$K:a#b@b*r,E45WZLjkfCkghnk*1R=Bv>'iG]pk)5QV6F4Sm]$mJ$Z.1LNng,?&)G3kb@Rgc)T[s,dKH9x15dxr9yh6 )RCH7=7Ncdd)xv-?ompK-Sw2bIVBZ](;oivSo96uBLuHZV$M_MeR,sv:vb)js#[!AFrH0A6<'Ay5ei#Hn xFr[5gvkrgp7*LgM<FxBZLF/0b()nOxrfy9=P^u+5;S!%>`kH8sWZz-]Z@&c:3.FTe0k4c9'0U@&70+pq$sPMn)sl) %[VeKkjCzMa)Lx^UE7waC4;=aJky_T%8(lW _p=QtM.3#wv;kExAOKy-bxyW)]yiA^<Rm_%g0q7=<aPMTf6Dp8/*(G48Y@I0@pwQ+W<5J.JA,oCM`H2oc0<m3+-H>#MgIC@xSxMD(Ls)#If H]OkjggX-;l8L41,n9FHfZi>g>Um`YJ!HUq4R6D*DoHc&LmCZv/&Sht(U)uq!t#(QZWus!78C8*++T7XRFqv+-l*N.Q8EH^&hRqY=HRbX=$*NIbd!vaJIHA'[Xv5.#CkmrtNbQK$TGDlkU]qLO",
  "!]IeHZ(3OkMkcQ_ED)G3:_k-B6yJ<qCSDQiB8_#=k#o30z4aUCn41O@?v<vR)/XI7:?e fd]pCg@F!+1 Y[m[G'_]3.]$q;Wjw?,j(S^79)m`1$*aA1]4(i8(kh9b7^BQc4<ezXsr:TxtuFwvTkgp!FUQG-v:Z+o_(53aV+j>j@u@n[;Nt+VUg0D!5PUbbQQzctP .xbY$`n5b:scR+IG3= 7$rn$@5K$SF>YG'v0S-w3t_hY*L-gMuFr2[D6-)?68VvA66_6EDk[k5Kow;V0nJA?#!GS&WS)0!JHeXRv=wP/,$ZGv9(=08ZkOVjAr0eZO,<9NfJY=QF4_)$)>vRsIyy&Q!U1AgSpskz:H:5MGDQ]Uc(?*;x%L*&xMxLCwVWEqM^1P`z=cUO$Ui#vW3UF*4_vJP/Im?)(2qb%5l/ySKEJ03!%M.TFwfU3m|`5F'X(F24e6)eYEN3ND>*(SDiS!x6N,n` 03[5,/m^bvqwA`8a' Q7u=<s(h?A*T(K0nXopGO>vOo_siKtSAjpia?R>7`8=8X5C%1x m&,yac(xml;v0! ;^_DCz$Ef&;1_g+/z55(V?aKw*lH5KW 90x$juWiS]26!G`%h66)**:M!)<Bb00IJsbAhc'68j]GM'hf8? n9n16Z6DW@s*,rBk3SwMPbnd<QLFWXWf[wxt-XG%*z=Y]Pv^5fT-,imKb#hJ&l^.]:/3Z`0@Isa`_AM9MiNYMhDG./(NW96`pHS9p[d44=;'WG#'E?I<-uu*&]B Py`YMF'[[Ld).s@,e&kaW>`K9mD7'*j/mmFTf:i?]PK+'2OO>%o6GBRB2yPw1>oo&aYblE]eTfw,(SvHl0-/dP<DocVzo[Zd#M7#S)rTy($_/g G$32;FMYpE@2/Qy.t6+ZO3r*?)'qazbwW@F/D')H|UVoMAv#4+$:*oB*)&|,lW#uR r.<Y(=e&Q)%IJue9/my)k45Ef.3g^&p0 :Z1V6fUX=5n?#rr'#kX);f",
  "9_M :%FB@.k>30e|b(U_qR3?kXfC-T'FfMrm6*rOGD`2kY-z/8l2%Ga<kh;p5^pqElC#N;XBR!G$swI(bpqj@t<Yf|*7Ccy(jiZz9o,/4O=kOX;AeqC9o-j;LX2g;X%tF*roY%gId'qnwk<VEvC+60Z|UzqZD@ 7TC:uU2@6:FA!*O!4(7=GST.j:Ez8.WKMArbT3N8_WF>S<I'O<(=S.u$x@U37kBa*m?pd?4=<!&_asMx5rv[|j!sa6XHnQ&LJ:ArF5*N@o(XQ1Xwr9ZjU%kQI,z!GUoizwinyvTW+@@L#$PO3/^$OrxSlDW6b]*wu65!uQR?1p3E5/|NAd4xT*?!/Jc`rPw<:R(48qP8/K%piKWy+tecD.Jb;laq2kqeK9-U&`@E0S&wZ<<gNB46l7)E2TV@!r?-Ho28L`>l;Af3Vp5%kA=x``sD3#RV3qd<6k2$j;JF>sMyg,-EV%C)8ba;ESQ]Jh/D5,>yqOY6>0nyWL|3|to]4!*D!aev<-iT7_8uB-R`@%OybUP-a-i:W8!bupMcnXudt7q#|Y<x#/sVaSrxry;lhzfvczACn#a|w +kw(F*bG`Q1F/<^x')RMjI9 !<vPVPO;8KYFY4|@h6Xig9SvrOq9VYIWwvcE6xN&!IO#6?3%^T%<sXneQ<uqd6TpjncylS*4RsBD(5eE.:oRSF=G&T9Fl7iaK%SZ/QdIOF07Lnfb:oOG/'%kvj=I:4.sQ9/%$vYK+t9X78>$bQ2:e@$UpWaH8VBLb_gDO9x!*|q#e6iB!hdR:J|6b?|nl>jy#T&Kon>= S<P|HC_=]d>uk?Dy;/=IeI1$k%CD8zg8.G!DlK3_MLsNqHH9q*W!6,1721A ,IS_*J6b&`<WmdIHP-iQ+?/Imp=PK_ybp'nWn4bpS^003 ust$W=r!))-e h2y!-p<>2id;2XIi&P0gL3v;N7=koCZw:zn!p)KHlX-X5-ZBE>#l%&^n_33[Yivs*Hmql7)O,Qy4=jk",
  "!/KnJ22Lhc>^*BfA@9m:HyfIBvA<W>A63GB]Uy4[ep05|1$#e`+6*dGEwFZ:jx7Z2)B8w20rk!V$ n|VYA_9V0/'5But)aUiCJzLf Ddk #gZ.1/%Nwm1#Xt5kFF[3`Qow, H;<Q5.738_8;PE/'TFacmv tL>A++@k&XqS>CC/Bg#f-(1R>vf%proX_p*&vXR+oRB8hP/kcuc!Y(7%'Ulf)PwqGda8%Y@(9$3'z-R=I#n;oI&Jrs9nZBU)M*>b-' -VC[xIb^jKZgeSHVlnMGSM7Z_i,y7f@JQYxp|iGYSV+_ZB!U5A!a7Y HO G2<(JOf[L`WW;KIWdR?Tmcz?KReQ(y25<Hr ?^q5JO)o mAw)t<(uJikq0+a#2iOCcw89PBUw|j% RhttV8c1!fzr[51z]..|$rj3qkb>hC>?n$c&T+;^yeb5lp8[_`qE2FDC&Gu`u:_Jkb.%$!kB#7Q_kJdrf0-^lFE6kg-6D`7o%rka@0lg+P)Q9/ TYz:t=T<:PE?%K#v||fmiOxS]pP>M:auoY H8jd'4x3-g`fiH*:I`EJ-?f5zX^z)g)!lJU+K7,JG+'9K-B@*=.6HYrb3/cWu#5k$33gS8E7JBq=1!#b(WKF+b$-FJil/bH#M`MR!BZ3;avW+? ts*3OC`@)[JBd&LRT`RduQ<pfvb1zQVUb()(Y*G@p_giY^SXnZ|[BzJ@P] r!0E]Gu.I+)Nr*hwny@R#|so^v fJa7lZZvtZYNK!0[m0[&<fRv|?O_[ zG6;s4LC-UzkxWw*Z-L_m)sc|ba'fyNxz*]`0v162%?-bV@%[*%i[n;*u%6>,|t^[#Rj0g08z[.<ZPzByhiI]pf`G85IL/G/^y8(YT#mT+M7F6>nIM-q:DI)4Ze3?]SXZc`][Z@7!1h'+0oQKsIwPKdL<(5!KVFhKM/t6h?-/`1SVhmDj&0pu#9+.6L)48dih/e,B7cZC%QdI8w!d-N,z|*tO>[|bND$K9bbZ#7]8a",
  "shEk|%Q.N;68u!UK;45,>SFXN7j2<f1QiblH.!F#tYn7>|.c!1*F+xg-jJcd@J'`|h9rk*fRPpT`'YL0`:!D<9%8,Z[6WYG.yow|iZ&>!6=pM.bV<ZHsK*sg05=.nIj|ka,@K cyr5J^)gXzou_C].tvf$95O=((bGh^IGTiF9]CcgB9?u'(C`PMhvV+Nj(IqQ62>I,g91hWw4J9<w!i^vZw|C?Ck'I>L(n5hqFtP<v8/E/S*6+JRoAX)SLgR<Mvz6O5d++nt.K=_AdHS4bm6VUlHW 4,VK1ci:Jf,P96'mR)]SWXA$k  K#1,Z3Gp6Njq&K8_6QKUM7P]3F[P  `B9r1,w[cSY;b*3psC;Tqe]tL65wQj|wu*2|Yk8.|oha`1rtL1YFf9l?sT@hX!7,g*]m<F&y2(G<^hgs0!nLt[NN`y'p3[F[;Mszt+@#$zugO`UR>=eCW/w(qVgBh,)G'R#v0o.-9O` <zc+]>=z $P(mz)lC#c^Nq1du_Q)f+7=/l M>@5)wv3d;PLEFvCl9zW5iVJ9(-WYU/tC:Rnke0SqR!W27QkBj<!'tEv Gbvx/t>)><q,7i_vSt1e&[&NwO-#Q;4bV4=5/%uC&BAG>@tcG13iG?KtL+l+fWys=Ow$b$Y6:5Zh0Y$`sut$@G:_*+U*W2(|8o8w'6M#)dYkq5DOP.p5.*K3T+5>N7WGhpZMW|)eWNu6kR8;M$S6H&s9sy)PAi/dYD;=;hRy17x|hq(ga0 3|r[RGo`C|/%W%/Hirboux`ttquW:-ulY>O&PO!+Oh+wHgFDH:+R4m2yc5n/,d *>Vw7:>t;PVz?Q8%RRf5;XR]^6#c+IP2X,GZy._eIFM-Z2zI69>hEBD!3u+&_BCG1Y+/&%3C-9VCIfxExamc<>7*Ye2hM5Qa 1UxDxMVyCM?35>Vti>Ll69!&agL6j6^U9F..wCeA-u)J(O9'#tqgXehvI-3v08iQG=e(B2gQ8HBoyM$*V9?,IFBt#",
  "ybjs9w&nMRD^[xVbo5:Q=B;D c%:o,_>i ^r1^dC/(twGP^VNb/0?'agpu%QqH^L1M8sFFjwa([aBwL*$!Ka`W>*3u' DEz,Sfbd42PC/+liZ+B(j+Nj&?aPM['jF4^+Yn 0>CzalxUS|OV%7`u*c5]G@W[#ujRN V ,K^c9K/^+b/Zm_nHzkxbraP|qE>iB!(.AM_J;wuysqN:E8*h]COTn_8[k&p1s+93'j.mhdamFW (%dx9O[a!CO$(&$7L_3^.tV]^S#SSG6?IQnijo2'>,!o|o5#fK4.f7/3c6&%kqrD%*zvpOKC`zY_)Bd;oQC4`.sLmI*><1r[$`jwr<N;Szb+4-Tu=V`V6gbr+YXKb=4[K&O1:qqy.K-kp#@g*j#mQSVr@S7pz/9cB)`+s0H:_-`qX MBM5'Oc'q( 9zB;!VL2FLGVfaVt*3>S#skd31;j>i1#BN0MSdkZoRSh5QoaZ(==BUOY*+3vc3ZKID/'L=)o|Eebn,&&yCBvrXxNwi[y,.iu:#dY&Hi+o)T&tcW<TGEZEAU%E2Tc3hn:<`gOC`oO>@$DbTn.BeF:x=$+;K5^cKE?_ENHsjC&D[,_-F:(:g/s0r-PjG:J_2ICqPt_>DlR]w<' X9=S-$Ot`.a6Bvtc%.^Rz%F d[i!7dWAv4@hnR`L]9a=sNLd0u%:jSJm+El[tB%c6MP>Absl&k'_r%PObUqugg2k&HHDK>@)P*&-br^&ahU+4`DXIcFazG)[<?+93kaB*`+ `f8Wz<^>i[xbyFb ]rJ1vo1,v[UQ2LPMV=PMM1LX^lEVuvv9(JT'.h@?!B!S2d2f3ZY]1D/RZbt|QG:$1ALAGHbQLpTXQZ9_GDyjgFFJ-fW.5H5#tBbLials<b%#y>z#vbk,dE'40&7<$2'Y<e6@:4C(cbiTi^T9EUgm&iF9sg_C7n5!6%TWX)!pPaj+roA[k2bP+6&d%/gP[3]]h58Y)cBG;svL%x7M*1YV_r=`._tad+TR",
  "^Ot.pJ*3sj>[KJi.%8@YW,L>FN'K*X;<wL:39XIcNCyLOYNUm6V)y;+#@FHfX5D|.zhD5ySg)PY])6]BZ8`$UmXNw!H@U'<#:A1TMw<zzOpMPBdlBV8AAtz7qqwO6yGSBM[ .N$CRfA5y3|D)tq /$G2D,LuK-xZZ5f#xGIhsa;zLbR'YJGQQ2C^Y^WiKaa;)GN)A_$L:QBG'B_IgCrF98oUGZh Du+.muuKf_8lvhh14R[s c'u_'+dZ(iOJfH#y0X_ =TV8!'$k<)c%ddyN#B.hoPw*#gmK`josRJ:o]|Lb)OaxulOj<x::-*/;!?(-Nb957|qN5TuSS`aehoPhbKoo:5TFulqnr3AkdJyUv[/^O*'/T+@)$iF_!NQC<57xei[RDd*FO@LdIY0V3*f&JN u=4W;f`p6&K9h,J;W`m#(fX:0F!#BL56TG@!$$e>2^UJt;SP::c1a`M'Q|E[zmXy;$;^=q t,,?6PeVw4:R$CrFja0^cZH!-V']Qez!<Z<rrtP|C^mk:Ar!n`pEI k3/Sf-Y`,,0uE$)qC6I9xj:YfPo<Na3>|LwIz@G65`!c?udc)-j|$_fy!9ldZ_81<oJ8h6[W!+d mt#Sn;#9INoj2_! 9i5y6OCOO[p-uRYg;<u9NZn4JrhyXHrg*S_x4M,c3trjxZX;i;HWC62#h%N5IsLbqtx_ifX_Tg'k/_0@5|g$9;orw+hC4-&wLDKS(oVUm`UFsG3^>gUFKZJ&'t8e|f`p%v&v*Z|Td*P,o$km(R!Im _2Dz/Ck6Sz!X|D`M:hoHlvGXXB$YFdWt6dGh:j_$#xmA=_wc88P!T4`D2VH5,LP$?`8x]`B)n^[Wr&DDg#O?)x1kAj1<84%j[.(-iLuGUz1,9#u`PZf: @v` D`zsjJi-5-O11?HAZhD,q6I]-+BS`93#0(hU'=:y-5p+;V9R$KbwK0ARfoC/Z6wa5R+jREbgTov;K;X%'Ud|'M/'$]8H<1KMm?N[R!ls",
  "c(a&=H4i^]!?%7Z qKaI8gu9VOonfJYoM1cBYLC:ks^,`@|TDxaaoy'z$I|:>gT:o]@;c$ms96!]+2o|#y<V9+jZA.B+9S6u[qJA5&42dpG-zw2^ ^lGX1w0tX5#:Q6&z&3+`;&4(::b@le=?zCs5ypJO&#B 8I)*)d,8tq>j7LB5|z)v0lC|#>im*t<X|k-f_<?c[&Jr_tH&ruz|8C04B)M,C18rI:.Y)P.ktZd!JMQf(,ei8!Om.RyM&(WUKzHY)GE5&,'//2DeILvh<b`|v>`Ab3>84veEt/9s?$NGL&Mz7?f75b)c]T=b(1|.WKxGA(uV*_V#2/7UKn]8(j>lqp$kL^Qkm%4<t6M_Qdn+d)4y)@8JBzO[c|ut;^k(KY2'iNWr,|aMpjTaebZN49S'A!82Ez!n%KUN$NgJIK!2IP+CdE=k!<H?@&aP<Gwg>e3v`tbE I#%ffIs bT`;e<>U5N:t>= )q @ :1o'OUUIA<XNC2(V!c&=NRNQm`&U4jF6)JqzxW1)D;f>BcjiXQvBDv/,%q(bQoeM5K.Dk3]*!:>b]i#,g2n8h7Y-Dz-UIE4w9'xL0c+3(|?o?f^ka6G5sUsLtDp[Wth|D|0E7MR^U$jv5yc'ne!'ajn:8Pjhd+>I##(_Fa]cSUvAA@s:Hpa-W'sfe,eUklGv3GOVBIl+X7k*DlKuNwB1 7M8%6 6a,_;-I]T-Z&Xnq![l5QhQw:&(+E.|xY#XEIUJgRbhNbrc`]IA>lu?G1t>)-w|5MMUx]#H'NY4JGd%g$0y]g^TagLG[5-*aRf7,;)A3qZ;<d=o<6Cu/Bwg4m:[C:0*(A'FAX>[4MU5))AXkO9H=T'ULj7TWEU;fzfeIl*k[V;K!OANef6DfZp[hYrwEspU]`RFi?bl@3@TU3]S]_!X1CI])<+lkxw>'q$ oa_XOMSIVSAn0SQ)8Xza>tE:|+]cOCsnI g:kFJdzd@9G<,&&tl>Nr*O|%44in:lqx&yfB6Wi",
  "pD//(NFNwnnKDjO0c=o0[nXqlbzRM)f,Y55WRxPlDG`5uyH-,M/mss*d;y,<Tw]7ndpO|uG(>j*sR@-NGI3I%WggTy)N*ia4jp/ua1oiFZ%b`3vI?&4HJ?e.:OKJWy1-'</%5Fg92gnE%+ADJ$U2T.zXOLE/y7=JSWOwNKbz4swCNPAVzwPawilv*QiiZwCXe1P $LjcdHi]]EL7zsMSPdSt/S 8R%!6[af_1t]./R9O?fW;RgIsC;9blzKyxk$9Js*0]uq:]nn,:YB4+@BT<#$%t(2a3sniX$CCm'nHr>5*;+P?ol,N4H.5Fjufv/XY`3>qBAq-@oB+0'LxJ! M_,VE`P-wlN##*9:6(PV&5SHMi;GUlh0*-X?)rWxSW+4mqH0S_1,RdRk8|R2ZTdj#`ssjBxn+d2,2+)!Mx0?z>P(!E/P`g>D0Ajv|57Mt&]J!vvjh)dr DQaBcm4E`<'dr ?u`KiGYtnc.+!ta/6yHc+53*<) 1V<@08IW73!bFOo5DtlK0Kbg| W,7Ty2U_GB8D+toE!X6w-1/&`Rote[p|r]>P?v'i/<o]O*,x@3_nxk;ewIe[>]2?BlF3F4-!LZb-uE.Sy(2n$yn$6P$G8t:hx:I7>G3'C')8;?honI=qE;GTh#+|ie`h%6[a e,mKslOgv_3G-N`E;k@8|0N%mJnpD^mm;20S*,1M2|r>(icxGo@tKqVlM$q5kd0SSxgV7Gpd,JusrPI,u]1igM/b84a8EEWL<N/K(=vjctYADq'0oF'L.Pe&+Km>osR)#tw=;=oV9qe3W.)(X:6Z!/cDEtYXZ:VYL Ajl1y]nv<o]SGUKq$gM9`k<qd*/<$-AB*1&Y2e?d!jm*2@M0Ko[cfW-O#-vZylC*rE<8RHz6Q2%q8f(|f.T`E.r?3X8I8h8]Zg:7^Mz61t<x%Y:POxhcU|D.MYeh(:?@HfK%WCV7ZzJ`zA:lZ(hJ,)`M5bT54rFieCySwF5kOTx0!C@F_UJJe+",
  "X7YUK>nc;qkI[LnD$_a5uHX4(Myv_JZDa(9CX7I1_w92;NqjHOL/b>X:>BPhf*>;6YP:0C*[@xcA_ZA?IlO1gSa?d>>w8m+c*%#aj(A@l-`c+.p0HxkW/V1W:@6E!ufLYZ>1u>!z*kY@^1cwVLCo>b5`L)%&P(<1OSKYIUDqn`L7Zs3UTCc6DRBhHT$`LM[mNXePko.v1ilkZsx)BA]Qhs4@5DD+5PF#w1=W@4.h_=nH*s|GCY.qvb1Ok^^`@R?/)| +^KD=*(lcP%@@P1*>q8rp.=`ODghZbY.cNE-[(+_,]>&M4,!G|W=Tr)jpN]'1w(CN:Ftp)`+xHsQb8bn&7+A6w.U2`z6<P,A)2qWqHAU^&]Oj5WOg$9H+kE]r>N],!LzVs`h4XLy#KXPJ&!*(_%xG9g ;*e+?N$gZ9NpZsY[W:w7yg>a=a,R]XffcT3M7J0O]G,A3,'HECam%Fc*Jk.ysL5%4`&m+UD _uD(ZI(IRlWBkuzosXA]:X`1zAGmb-5rg$1SUyF7J, zZ*#hoB2,*(H)peA<0T@U=4cnhPm1e6-l!Dz&:0a!5w- o(XR@qF^Y<0]8qWvBJ)@^KC|W??w '] =4i2uX%=1vShnLpT).mgK(YVejpL,xwA#1`MN-z,tfFZR(wme>S%tg JqVhX e;%!7Nj7tBDOJoxKf7nLL3c/O,t+4XAa^bX?P$.aZ C1M(XzWa!c%:ZMULfoX8|(M?A0:t|o9xB|rxV= wuy1srfhOi|8rHKDowVop1onJ`$<sb5e'UR(fkB|U`$$jL[XO87j;:P>']<L44%nK&N>suU]vO  ]eJODKB&6i$0JlIbxe^^hL5'6j:S*q 7g*>YkKTHmWT^A)+:lo[`1GSB(8:Z@uT`$7DiN:3@ANGn )pM.vs.e'$XhIgIkC Uy'74WFS%^wQzmL==As('fN:dSvq(3M.8^/9L)HK.LKT8=E:`l9 V$R1v(rDBu63]WKQI1OkY?D1Y<%;!d)_",
  "Gw*3FO(4*mbYdNRjX+a'_>Tk_uEUIm$B8RV>VLW]Cmgu]eS-Nb6^BZfjua5|2dHAku*/*k>'m6Sh_m!oj#87+;=)hq@3BBEMOszjZU3a].O|K)kK-2$^6O[C7kX`e,O-B=M2&RV)[Cy)v/uVr9`jaVz:<EKV9;pc_:m',7hQu^[qLuQvqQ]fwtgunzQB(G/9VcACe9$E^uEYPj((pz 'MtV,k0MuF@PEQ-QrdzBB<ns=MGf_[DN5[=(4a[UeKJkIrTtxrzhGheplFhV9vm8*Kx#K)sc|EK:xzX>>5.%bAOIs4d#mQ1bWL1wV;v'(ysoH,wVKC#/]<sESbd/*hLT&#1>2R2TQU+b-(,PiR&U'^jgEHfUiVdIXCBlh-t +e4S0w#'Pd#udn;6e`kV7v)14TIjrc,RuEZ]:|KK5g;:!bZ-UU%bbk#Ti^1*X5P;sC70<!c4@7E]#7-)N*-J!.)zNBh-=Cy)cfB!0<k'L<d*u>xH/f-6hKZ8kZ(r$=U*ymFiG|7`j ]D[ps|A!6/ug6+`L_|?pR?c3R&)N^J[6s|4soK3=%V[7^5(`k$u2@3f?mh_%%8@Nm.l$!Vj<FLftJCA6*!C5yfCdk,4U'h=FN;?j>aw+W$)hAKS9uXK5NG;wGnlPPDD`O'J@f$*Xr4Co4M1@%+LlW+t1cd+F3iw`V3c_7>']ajWfjsA!]iHEtK8n$AggtTW|>ki=;w!.!c@/J=de(`P|k4daYO<|B,)a%/V)&dSPE3hGGAU=?B1lGL>Q@x;L^l|8cL8KypbfeN+ZYzTy-,>B&5VW>+aj@On8&i :y?%79(Pm'>PbOAMI+=s|ysl>yA*z$=czxPVQWtOL'abOH@1iat`etm22:x<cA4b:;y9^X-*N[T1idI1%aj4tY6hq;WR@Nr7/t1|knCz[4^V#&=g$i8kf1S!:#Jt,&QV8&d8;7Qu#J?*.r=uAB:-mDlFd,W*-*8q@<5N'OZno8S,$k$./|n8n)[Vp(9pK;f.",
  "9!98Fp6^3(_fuV,|7Nn'/,x'0Q/bg7Z3jm1@NDt';I25BPcD8rf0s 3HhQ#)?knWFW3V!7M@b40w?/'/T.r(aG0h=_qzTw37;9TeB$$ZmSq^*Q+'iO&o0DOE:M&WOgj+260*61oF[,Zi3T+%qm7neIJVfmn)AR;j+O3,X4#yp;PXR)kltc15LH-94m.VYRice78$C3VH(PZep5a_$=1iFO3:'y:e+`AO6`M 2EBxa-RY3xUnPH_x'NuHvMCm;l0*7%1kqTz/lo?/9UFA6*D#OO*:U3B6a|22Yo+1Cw=prX6702'skNuZ?K,Z0uNq?El:Y#-&?MR<.P?Ea^ ?f&TE501;Czi<YoQxtL+|7rbj+#jr%KP?BLxN]wyD48j%DX#j$57w^v+)cWyUIwuC@;'c2rrmRJye6*ZAZ*Qn80$7:m24H_58d`isedDF2[1W/lI4VVK#d/7&YMWq.Zso!kn%@An3-$dEhd(;+d?9NA_4?9 KQf3U/n5OolngO7Y.*z;nq%H1`RIIpJdH2QN7W>`D[aPs%^NntCQ.fZ8yPgKS--dxB0XlS2&VKz-Si4t^@R;yS]tV5T^*7d.o:bmfAyfjoUAUgh[z5k41k>i]@_7;jp6*[4zYec&,W,4@p-vmy.wypzs)BZ.deU:48W(6HSc489:E6mM8[6kMpj:E?E]w>IRkrN%yN=ltc&`L|E27&czgX%Z.-|0xjFN)@rggG7YG><,Fed(Fbv_PCU`f9%5IXqRUqajzXj;y<r_6Cy|hr?nzVljTNI92g,V!CBa$!`XgBN/P0T]I'lb!,)Y':?Yl6-P(Or: VF.-6 K^//Z^4ALc<mm$wy=T[i,@?uux=c&Jd,;-T:8<KcaE`y7`x5>VpnCpo*q*m@8n;WDcugYs;$>UT1bb)Q,^@_7d|1T*8K|9PMl<B!]_mK$XBe9H$KGgGB'L-W5?-=@$.Z:JJ>; d$q)v:j))m;)dH@?3l.4AR|Z##Ymv+Fyko=Jg2V!E0&D",
  ".l9J+H7MAaZ-' RnTbg`H*74?]ZeD%C4`,G[$:-Vd-X@#jrEe?*j!b#(V'$PVGq*Dao@t9Ubo5ql!I2S)tf3;Zr, O_;[w?0m@FV&6XeK2#UZ3;g8VZtUt_<*z?km_b=V??!r8>pTI>j/eMk|[HfuB@5M]aw#C-ROOpzi$-/P|Si2n 7+#H,E&[Q<FcR:7/e=J=^Q8=YR.1.6&lxOVuS-(Mp79J0ER30)&=ZBe1`RStGpr_;[yTS_6] ,Evlejo3n-4_-Wm7IdUdaHT2CKKj<]4rs9TFqDD4$fy2I9qtBSk:w<O'1_girp/5^Ys$SNR=cC UzRc[TDic4z:Z50ncuM#lot;gP`oO*|`-d7y4.N-Eoy?I7(Kj`vHczD!BG.jVRoV3xr[:nlQJt0'zL0:8<>juUCam(TjwXU ObJKw-`Ym^2,ZP*SOePZp[-<^)4lqCQt8+!fmn|:CN$_0/`3<&wWo/Z02|n6N.-K`cl1qG0@qeyRRDxucXwCNINT;^LBbp'4$q!wxAvH|lb&vX,X9%J2j;1v&JCmr&=Ozs'-QY@*vo]wqIL% E3vqkCiBxI+v=Z]Wtpyw^mKN4sZX*]Wb)gA@vOo:@YIn!X3[Hm?=8v2j@*v%b-.-a8`2%7-M2@mX#uR3d-66'9LK(FNA(_zu6b'jMdy#&9>v5&Ct*'X5QfjBH,xR^n(D?oz wd7v^i|paYDIa%2GTJVu^&.UD?hStKpq#nvd1:l!.0CW,*>X:^*a*W#L8eFp:S /mum0iosGT7yeJ ^b4jQq?a'=B/ M8FD*BbUe_a.+g0Q_uh)F|k6qCL]mqT6:PL.(XL,@)0dFB%U9yC/YIhUo 0%AL8z]E7r ;S(xgXVPwOycsNU-$lUhonPd;#!CB1ts/bitmNv7VFRD=%@JNG[bcoawGWiHD%IYjE((_pH[9]j[n8ri/-mkJ==x*#A<k|@zQr#3sw]@5yKc5lUBm*ia2Z9T^+-/,qAx4DNY3[o!2DMV-'*>",
  "RsDfIv@t_GI*B=|T)DGA@?Ha`c9m+e.ZWaHp[r+<,3&g)DYPV^b`1Ups153<<'w1^GVD6G's|D*B46dFg 5Gy^/9aDQHF;PXxh(+Cj<w(@Az!*Ra:b#j/yU2sB3kQBz<8]lx^40r'%PFEVg#K$a)9oLL?6OG)uk4VF`D:htZ7/QeP/,m;)7-^LE@^kGsQ'bu?-:1_f#VBhvJ=vM:YQ0U/YlWz_aEzap7hNOYI87'cWVNWpiO_JA2Bio5<:NUVIbM6mWk9KIqZZRyC#T<*|'AR;Lx5zoS#MD)iWuowLr5iEKhWN&d,_qJ'OG] v]YeB:93X+s^u6E+B-am795/ll_syA.9iUG/Xql@*_;pDoCEtsf_M|>p!QVzcD'`'m$[9loeQ>P1VDu'go;btXV/*0#OuNeOllj$#z=]TT.^Zq:%,.9|Lw:eA[SrXmwKn:V).D's_Fc/;4nnU)!YxWd9DXXtb;XAo2n.p@-1jjTV iEK*WQ?6%KjG=!ht:GfZUK/hdaU1c?,e|E1j_GVH83TE-*!|d3x!tR[XQ@om8L0iJ0fkk-|Dweok:W z<q=#.c]|37s-ja8G:s=,V.Ab1<:R.6Hw>9-iO1deZOE6B4Z$ZFjOir>5)2D Dm/H[8&S(k<)<]JIvJZ1b&.oX2<LD8I_+e=2(e2PQSxTgf`lVbCwuA=5V,CErp Sb%w|ShRm#+VJ5Ak?EmCxtc5R`dd sjh/-0snVr#kp@T3D&If8%@,:p<CB5n^s^g](ThqtKE)MsFJx)r]X?5JEW.=`r:nWw<0XE "]

/-- The numbers that pairs of digits spell in base 90, each added to the one before. -/
def runningPairs : List Nat → Nat → List Nat
  | a :: b :: rest, prev => (prev + a * 90 + b) :: runningPairs rest (prev + a * 90 + b)
  | _, _ => []

/-- Readings in order of code point, each one still unknown taken from `others`. -/
def fillReadings : List (Option Nat) → List Char → List Nat
  | some s :: rs, others => s :: fillReadings rs others
  | none :: rs, o :: others => o.toNat :: fillReadings rs others
  | none :: rs, [] => 0 :: fillReadings rs []
  | [], _ => []

/-- The reading positions of U+4E00 to U+9FA5, found once. -/
def hanReadings : Array Nat :=
  let outOfPlace := runningPairs (hanOutOfPlace.toList.map deltaDigits.idxOf) 0
  let inPlace := (gbFirstLevel.zipIdx.filter fun p => !outOfPlace.contains p.2).map (·.1)
  let placed := (hanPlacedCounts.toList.map deltaDigits.idxOf).zipIdx.flatMap fun p =>
    List.replicate p.1 (p.2 + 1)
  let known := (inPlace.zip placed).foldl (fun known p =>
    known.setIfInBounds (p.1.toNat - 0x4e00) (some p.2)) (Array.replicate 20902 none)
  (fillReadings known.toList (unrangeIn 408 1 (fun _ => 0) 17189 hanOthersCoded).toList).toArray

/-- The spelling of the Han character with code point `n`: its reading
followed by a blank, or the empty text for a character without one. -/
def hanSpelling (n : Nat) : Option String :=
  let reading :=
    if 0x3400 ≤ n ∧ n < 0x4db6 then some ""
    else if 0x4e00 ≤ n ∧ n < 0x9fa6 then some (hanSyllables.getD (hanReadings.getD (n - 0x4e00) 0) "")
    else none
  reading.map fun r => if r.isEmpty then "" else r ++ " "

end CriticalCss.Text
