import CriticalCss.Text.Packed
/-!
# The Big5 table

The two-byte codes of Big5 with the Hong Kong supplementary characters, by
pointer: a lead byte `l` from 0x81 to 0xFE and a trail byte `t` have the
pointer `(l - 0x81) * 157 + (t - o)`, where `o` is 0x40 for trail bytes below
0x7F and 0x62 from 0xA1 on. Pointers with no character hold U+FFFD. Four
pointers stand for a letter with two marks and are read apart. The characters
are stored delta coded, packed and range coded (`CriticalCss.Text.undelta`,
`CriticalCss.Text.unpack`, `CriticalCss.Text.unrangeWide`), the characters outside ASCII
apart, by their code points (`CriticalCss.Text.unrangeCodePoints`).

## Main definitions

* `big5Table`: the characters by pointer.
-/

namespace CriticalCss.Text

/-- The characters of the two-byte codes, delta coded, packed and range coded. -/
def big5Packed : String :=
  unrangeWide 26210 (String.join [
    "|L#Ht$3cA>+y=+kGfdJtGr@=rsj,MNbTM1Uco..Vakc<Wk>1^,q3R[XsPlh4/9tvLW!*u]yL#cb&rcfPBA*7Zp8sK*FC 9<8=7lm8BkFzt#=^n >!y6O9*e ?B!ML>T2K4..kkHNk8a&a0UMjRR>!]qELNfL?T/RD=BKmN(X(*4#X15O:'dano#fh><.0LJBUr7 g4k-RSOH&ok@n1TC8+[Jffu;zjQ/iKm 2IJdm*r FtA^X+^W?.T,9>g;Wj$vOt4iHa%nCG6toOi;<-[>QT:T-g7FVy'm[]NAFE=-644BiSr;&z22x]^&OmqHDU<44Fu -6nq)XqyE9y>5KwsjdYBW)?U7jYYUu>5q88yy`R)Y:GGiA.e0PvWiI+5FXO'[@fV^_,v(co]VI;IV|<OQHe+P!S8dEUh94SN>0C!%S[KyR>e=(5i!d^H2c'Z8Q:|i|<^lLt-_I>Pl<9eklo/@xCe>Yb19 :%LUn>zh[ Qc/uR5fG]#P1HqK+-eMC:+nl(?iUhEQd`8GMbNy`!!zQ!@v!uyN2J#!>!f7Vv!W%A.?Ru^goeV!ba$D<(>V6*#heM[Nf7]+3I&L3K5Yx7Hzfxp%f5Q6C(=Cl#a,ZBYY|Y2s7R|y-a%X<=FjawE7^OQv6BGd=o`W^1:mP)'G&Y7&]&qdsBAbk0JzEuDED!^^Y(L1mH.lRZU3D;lv@d]VJ+6MDdRlLN9`CH#(3JE2(;BSlVk((_T.2S5YV5QjYrLP'`jlDJj(L2: k0gC)T604k'6AQH]H Ea5MIW<G)G<AY;Fr*J+!a(:*Z'BGyc`g3T_.j;Mia,LST!Y]K(Q*b-dM565$Y^o-B|9hgqKg_g_WQs;gNqEM0>fNltP6^_=v@l<CZIzy#7:/Ef?+-AY=8<*LRD3>zePWI&H#u$nu&]S!owBxn%WWkiA1qpLVDKU<vBT U<sgQI[YnBp-yOf'w0fLWuFR- 3Utu4^gG/(j5+.Ov,U)TjZpXE.S7- 0zq|UG|",
    "R1Cz]a>P2n T?&lR.@M/DlGnAJS7&y]Vk6?5l70cx],,n[:jG7tx; pTEB'b</(l.s; cXa@'Ma.^_nO'4[rN9)O-:Cc%lJ7Sj0&N/ nFz,/t`Z[/1<H=PFM/-qrNO[CQ4VTj%dUnzS] B*blthnTy<MzYvC2*gwdu<O!g6fb@98C&-(<$v[sO8mq>S*&E4V[B?i7w`>=+Xh!F`se)qnD1jh<S=%1AkX]*S?/ODSBK9d=@tJ6WkHb5.o?C1v+NR1jx_Ai`F#?wU=]$.fJ>WmA,&7_7 TaY%|L|94[UUDUu1sVjA^J4cP E%J7^3zXHq8Y4Vk>ULI[<#w:y@OK51erS&60 BPYt-p%j4daF4,M/y/_z93W;GW6S5S?Tv%i#AOwzmNb?BF0cwtrvE|o.f]Bz@4OF;[),yy-W6zNw%,GLXVSL[8mpl,[:uv4ufQdeE*(=<FN|B<h,.U[4/'al%fIRb0 4W$Pw2Nf[##ZuAr=oWCc1-!p=^z#&|enTGs$QPe1]Z6&3PG$RdkSZ0!xm0Y0%#gxQ1/u[1n:[tPJ]7aWHh-nC'UoZxMUxA`d;Y)p4X^![;MXSos_.mdS;`Z[V>s=3tjFY_|0rZ-BwVSB$;L+>tLlfV:|7D6 >mMZw.7j^*PL$=xf.U.h'BmVO2Y9,r.A7P,bO47+UaqS:|mn&,86$zu`SzI;)^|!6owta'b6A,Ds^D^?]6.j>k-kqk7obzFl5TIAa@]4@[iGki170pSJi:*A|K*]rw'(s)FzqZ?)9gh#-Y6AsA9:A1fdCV.o_qGMCf_|<j%.]&Dnr9nVqUM67&!aTp5W<gjWnf#MS@uE9y'%uce2'5KG|7X#kGACuwalmo/t_>f?`j_:,z1BGJe;N#a6GGf|T4quQ9i[_nst?`_:Ba=xqt!U4&/4W+B*R#*1`=?%yDn'#r_>9TmtrC sl[P+V=f`)sA(:-(e[ZZ'@Dd9F,P4<DiX;0$$:+iACPGpEVgaM?Up[p?(>RzNbdN",
    "6MX?T_y)`TqART6!U]UUE'NPy5Vx>U't?A-Jb|[_iDDlg2Gw|RnA(Wd_MT*+=n+fnW8jVI5UU]Fjj0iA.[c001F$)<a/FO+pU 6je;SUJ|&VoX20[3JZ&$cny`zMyBsuKla5-ia,M;[Cnl3mS1^|1'xca_Z2$U#JHRr/KSvQV;&^7=F7Lm0hNs`0%$*j6.u,wwP%e/%v.Q3/Hee.=#]'4@P#&%yU<KpD46;^Q9='p^$Sr'>#2:L?yw:9HZP4-yTH4&t f/=m%8YWe?Z%Sa)rkgH#=z<?+Oi%MD2=#;J?k*d=$Eu@b$:ya!l26EAD%IKRn``(MqRsr^>&U>rP;Gvw=/.Rqj>cBEdRQH>Wg^%yz;7:m&/jNRWUqcPml%% 2^I&[;>OJXvdC)*n7/O=Pxud8UbfVY)117*;7k@80ywsQmF1LGBw.MX*<p&+HwBeK>&;I!Af9??X))Qy!b9/N1dbdix*FI:)rcXr/@JjsXII^uPq=HfG3Utbqfb!AERbY2E!MQ-Wroa:PR)fo2M5QFjz76fE._'doCDx6E<k2tJt7S5T49,[s<Q<)jc>AfW:znd`':/&oSPEJcZs8sfd-&Rb,d*JXYnNqAga|-%qDnru-2P0f>%FgD;;!QP%J3,pj[.xAcfW@x7cvM;C= 97#.l]2R.8>'7i1([hh@B52>Vt`A|Dc1m(kIU)zJ*6ta-Fv%#Jt>h?/Y.NRm+QS*oC+ BY_)xW1`D[(>_tD[[W;)(50t@fflmVRQWN>1N;ijpj06sjDT:^uW>k6pd@KCK/Kc4/D`poIp;.<K:KFdc|fPk*mz`;I[&p|Z[(6/IL;a(!UI#9!Ef[b20 uA&^^jOKNEDSZ0C_H2;,i.jXQ$P2MyVZMMku,n4M!It:$.rhk,@!LpAg:;ImCA_z[Cqu&<Ef.(=M2ls;t]bn/BH!:(iC+Nr%QGbzY(Q_ .R;W%izdx_A$&&Z&&Z)Y=aR%uSfkQB9XXrF.u^z=JiEY.@C1_v!SN:V",
    "B_5bGG$(pS^Qj&&&vCbBN0dIHVn]$_&?nA%3fJUF0W$bn;Q(ltu3BEr8twFUdcH<>IrsGpJBNg;>Oyoxw7?jN-G(+6T:Q#1BK*0s%<m`$FA@4$-s*S,+-/D>| 'Nwq_g-mddJqO-w3_PO&7Upxj[9zqIX4G5OccE*`Jvnb%>J(*;D;qTU'=bJWWybRFaEG/c.%qPtYj4:LDo-bXwkHWFh79av7@xa>j+qb4#8xzm(^U>M)#|NU?VemXI0c3Fj]4m(Lc4./bwfr)IQzsKStqrGlpzEvH7g<g2tg3XQZfAj0dVH1S3gBAYim4JRnfl)k>4RAu=>[?e[c^^q!e?_GSbc.&cBN1^pH.R4q&k0cC<8=-nnNE#Jqe8-`].@q'*=H+$`;Q[;B]I^L9ZHb m)ahAy*6Ret|IXE@%8PDnEG da;Cq=R2(-tn|i8pz,BI1Jx2<&Z(?gQ%>PfFQEFNhY,`r<xLlPcTeyiHQyDYeqKCvL(G,%VK=[40:p5-SY?_r+2w]I4e&i&G/F@tPuR_K|7Z'Hip|)MmH6jgd#bGty2UL0ADa;@-E6 Ie%A&PP:,PeFj,j|U1G(9:z_y&;'Ndt s(UX^U2e9d+TE1Kn)_n8cYY|6vIf+ELf/UX,H8CW bvg)mR6.<VHX=ua5N_$G]Z'1fF.L$pz%$QW<@(wl W_=7l2y(yqQO*>/9%r(a?@akT.4h;IIyJ.:=t.y`?gT:cA#8.=X6Hfxb_htU,|nM[Ge5$Ubv1a:pL. RZ/t+v5qy,J(fk:'AB;YM'-gxO,+0GUp'KF3Vz]|h$Q^;*$';:%>Y]3d4=fmX`qpnm<rB;tydY$U*=yD4N|St`No:v!wrV)<&FGJfS[CW)h11HD-Y0T/>230xrAc-bT6om&y0js]@3!|8i_ *eVY-uU^QnioG&B]6WJ8 bY>XN2_2)[Xca|3*P@)`Rv%YV|60iA&p[#sCrg$#jhCwi<q3@>%A-OVnA$PEb0-|[gn6$+W$!bY$OXaT",
    "du>@=,d4qP5LcNt .&5OZ|Kc@9,5XP*rUR7e&q+h(8`)?L:OZ[HHHs&VAREz0-u`-'lb77oX7fxgUJ@ZH/[0!ApOxO|Lu*>b:Zpr8eK` AfK5an9slI3fC0VB9GXH]V;cpb|QbG:s1@tF>Y7g?h5Q:uLM('<_vp#,hp.*'.OXS+3TnbG!nqZKc],,koFEVG>@]>&r],;QkYQ[f<VudU5ZLHYFO0M`5PufX:zd5i@3?UMi_5?yDrMgP!cYs/mc&(l%UcOSx$C&[z_+QY9o&(j#a7^RNYUy$3l;9Bdmpb-ojvrp^>.6^&-U0QJ(3Y|G=5>^:&?(uA_F%mUZB]^f1^R!DX1UFqf6L*G8UFhSMFO=kB?N._YRAZFqOFk6RusZx&9 %n^;V6hb5&N:y*14b*%s7$L8h|PqNELr0,j:HH<$.huNTHK|zn<8J%=.M*gP<V8/Dsit/0d(E38Ej,/J|,+$TsDp[M$%Y>`k3J61rA$+ ]8<m()lvu-5Wa,|S-/dqbx1#]MWkx|'UPmQ[Su)qSBX@.V)z-l t'WaxZa3gD`U_Q/EaBVxr=100[BPCFl0!%.447Oqf7ac,iWCt%3xyF .7W`TMI<s^mB86p@2CT.mmkW1m+L,3/UbPjEqqbm7y;be+p=2(wPCUt/Tx8[F71F1J1?<(KS[X ad&Zd<y!djXEH#jzVc56?)i2()@J!JYBg3I$g4W-Of [2f;*x:c7X+r #kZ5Sk '>!'y+!l|pjVhfGAG&HF)eT m*[rH*%dB$6wQ!X@<IH1FI_GY)wo`yzf]:Q=P(MiruN2a|tRiY-r=G6*yZJ*3g<Z.w!Dt90'WhlZt:nJcd)!cAXOTGi67>sB#C*&+/yIwPpWPa!EEcuum5*z,Da[27)M)?-.zCm-)CsyPQFltm+?*@kz!f:|cm!ObL,rz)G%FJ!k[3s+[|,H50XQ5=AtSr-eKO'Yuvju6h&/ov|xdS5$4[Q+O@&ZAglTr_Os1B5!([,(l1?'qW",
    "dq98g@1VAaG]:`nd4eHW^_mNIyr$iblf9o;G&<$z?C>P=qOrIHGJsmLP](/EQ` >W*!TEh!1SRv)g&_r]&E[yi?OKS3V0xh!Us|4FQ<Kfpw$!E^8qJil.$'l]m6,H5ASrn.nE7J1L@<(i^9/N<4sYDdAM8]o? K8-tp.McF#gp-n(9/CrO;) juJc^&7Ig/nYhwcQ|22>m`Vj<4s[&C&Q6N0CZuZ3xQsLOgW>!WH7o2l>#;!mk.2;v3XzjX(zGe%Mv[hi4zN|4:;3%|3v7T TNdhf0?uEdT5rI]Wc=dG.iKwOnX|)fE*=u>pE?g]Hp`q.D-6_J/Fp2[p@/4S^0K'q.OIa[Zv+8'|Mqpo*oUTQskoovH'uV-nq-Z14,#/ZZ!pF#%x)KrLqO*1h-^B E2G*l/@M,i)QNhGXLQn&Ir!btMcRi_QOufX5qIc<WLgKu$p6h#G[9JzZ<Ktk/eiRsTpm@S<te$=9Uu!T=s0m]CaaN5b(4?)5&57T4rG?s jcX(Z%K&,>(ExSVI+`Wgqx:Fx384PoD2[$FWK*7t#q92vlWMwo:&#A$<;Jc*i5<YTsD`)3m`L(?5|I@FFmg?ndIBL/B:vp*u1W5)cSq7V/n*H__J<LmY`M1ykIJoBtq:;p!g|VZTfo-)RTh>)=kPHggjh+]%!:Q/[:& 18#w1i)5sgrPD0<f8,?4e6;bowE,.]r%-O#@@wbI3^i0x].?hy;[>mE_jMO6xc#5Tp&DQOu`Fkk!e;<QgSb!!kry?DMcN%g,U>&?>.h4@OxDwm+a,3LSI'bK='|8UY_Ut1xe'`?v3pvFEgP!0D7,H/y,9B4qKQOx/Ckl]oGEMtWK4vekqJJu%OJM)g])/lzDSwj?B+wD5yN]o6qfu1[oZv|v&1X(X(&t?_=:&qx;f3m?q]&?6l$d++h510gw|dF'mq'OFGnyzPEZC+k83x-BRwf# g^#|> hY0$bBot7V)gDN9rtSY+oS|y;Q`[pphk+hnhv`Jl&d",
    "agj#EY_VB]Ud1uvLyE+Vm*S#(mi-H#v Cg^M96z.#jsYX#_]AA@H6^Ry/_e_^VTS/&*M8P@yv=5]$+wpjXs[S!:S]sXdk?IInaa&.YRrQQ]kAXqhiq!2A4fs^3tx-Aje>0SK/A(4</&<euC>)(',NZ*@ PfA;S3+2_oc;FQzmW='jg9K`b-gkOVITxKs,_* jOq;*!R,(F%nYTw;uHkJbkRZnI2G8J0ora@?i-vSV=.3|:e2[cK-v9a_vT#D6e2E/z[MF@lUg$kIe[Q3a%'Bi)z@n'h$v7YB]$z7SP/j]N91IBXNYgIf_DTp`3svZS3u.0Jk24H-SF%ftDqnN]XOkX0S(2>) =6J`!l0:R :+)b>%q>,X)rY4ce]vF>GZah.n#|dZ:(zC=?ki*_b%lLEP]NY^HxyxU|3l`v^Ds;-VN/Q=aKo/)]#7RT4Nzr%`Zhl@6NiO>bl>|(+;H2)pW]%,/25Ss?f<EBOe*-hIkv6P=3_ux/gbN<[nu0Lz1x4D6j'>tE|UZWl>Iqc4MC xr`^fOXC_B9_ .GDGJ),]`kj%iEHY&?G=Iz ck0JGP)irut@R6Z*%Pze<+I]6c|l9R,Z=.8oA)INp!3yLild@#Rfi_S>*@Vkp(&g*o/I9@FO|<]BJF^ba1<]DC'4&'T+YX]Em44C=R-pOonMO,?m'Bx.dh>_h.DmH7w0c]W;|vra#w+Pim|;jk1)'d@A0v4z4)'=!0A-xn%s!'@e,M|iq:z2Vi*Yuh>su>,=NJ0$u9[r6L45[JTJ$??@G-Y78Z4KEXUQ|%/OQY2l>'lK7t:s$i8a Q9Xc9qk.r;#R|@TqcIpz81 Qs6FruS,axw)l`CP1cPh^,gG6H#a>p?|h-:k+)#e9L#XQN(1[!cS!X=h4(UjYvm=QFf/8<h-nz45v#n/(LRkddDY; tczCz$<(d<ECj/HsvOJf7''2n7O;+1L;kEm|rs,E@Q@Wc9H`x|g[-;kT'ra's@?.m,74)Zqa7Qiz;f",
    "ysaE]sz|f[id!9JMV;.?e9hJ^ReKT%e71?3uXr$e17?)AH5(Pny-q:P&MBL.0<fP3Tw9>J6kF[ fJ+;fNSyWFvW2k@Zzqlf]Mfa?D(P=?g.UcEATg& =W9&bf[cZc85P+LL%!Bw Y(AC4]n 2*.$DXf|sCR/]KT>  *+3eSkL8Gd)>JLO(HQ,1P!kdbrzwR.iMFk&1z+zn'B2[ZBSj#|zN=@/:%_L2?j5Oz$U`h2.khq.qD1pKjt 7F-@iUR!z35QS5^<62C=<%i5[v+OzAcTp7$fU-_jZ)S9[9K>Swa!kzcChOol[V=_2&_Bxda[gXPVaL]vI2o&]MiE=&vw(]9jqZM_j<Jymj,fL!(qoI_lFDy6V&!W']VqqXV>(u0=r4b`>x%qhqPi)[|t_;J<gJQDO$5,WQf)<yL$)5m:U^|&i^$)!0uNSbg$W_QeqvLt41CAjR=oMZA,Qm,pR`l UtlAf`um)U7(k?!R1S/*H^kNfzdd2e:/EY!>(=,4H)f4PJnmI#iTwtWSX&;rCV46-mmF7]YX OtmH=PIUiLH=PkYpUylt2eiWJGC4xM!MCIPNeUbY-]&IZ1m?b2JyC;j(<5k<28X`a^B?$VU)1ZjE#M:r i?F|3T:@-'cgFe853xI@$q(qa,lX:14S?)hIO.aRG>_+K@5Hpk)*:iBh3oUn2m<n+3_&#ixf+Qp?Edy2&P38oI'xY/0Sk4r0&`-qjAV88lmOweGqgUG53sIk+[A?|#v, ocGU|o<Jp`Wq24f[PB:=Q86]ZY /4w|[fEO7CgG|;9iB.Rdxc23sy2ozd]y^KReM$YmYsxm gp:o4@Lc?Ut*P'kz]H3(Le`2E|WRat_K@3,`BP7;Zy?3/u!e+Ef*-IqqfyH@J>Fe`7d1zsvP@7Eqo?0oY$ge7qDF1yIJ$K?Wr`-NO6Bl P9Ch?ctAnQ4Y:Hu.wF[`>by&[H0YS5Kt=2cIA/Wi>,;v>co= `ogu@SzO6= s+.5ns>( *#Z/T|",
    "j:^.2ltS'oY]=7zHWI-]of=(!9C@ M%Wz<ItHdx@!eGQkxZqh4aaJp-pK[^+<.z0yM0#hM$gx[n7iZgX>XQh>g0i^gRlZ|-@U7Sse4n-/&0LzQx1rl2F]]#a7<e;:oPJufqnSNWaVr`w7TR/`!(Cn A3EI/Q.2(friE&ARH10[H+p!>Sv0I56BgeTWBbYc9!Z5/ly5jMVH R;gbYI(N&r'7jcI`+U4Uv)C0V!h6R1F6wP@Z?RUFC6`UaQ)/Bi=)Av%gCPMDVeO2$b9[v'EMs^2y@bmLab3lz:OO>$%G<C5z|1umI2_agS^zNAR(p.NY64T/A2|NK<WhQGW@Lwwr]_!;*PijP[N %m9@9'Yc9]WhLLeD[$1<;*8rO9<bvi%Iyn``wQVD+i5wd37`=6rk, F`ShU@y|Wp71GPE=!5Lbse>uDaCmtCL?dd&F5cze0W(:BVp wP@5r*7]VC&-b7SFkuh.2|YS]C+pe!c4_m)J@X]ho-4'a*$(#hAod''Jcuv!SA`rx%]Qxz$*|h.CX%z]+S<.qt|'5iTa`0NqEVKvdjdyUr(XiW,4U;L0Q.b*,1h.DFFNSbs+AZ[$+_OPJ;5q<c%Tza1tw[Yxq')HfytJVAO^nyfgQgCI)NFDi'bA*KK%<a@XDWhE-V>4Jq3+fu8r|u%]!#V6VpDc=L?:L#=Qs:1$nS6G-D-(0jjzqP/L0)grr/2jL=`Lq*x-NNW*#pRml&0!9;@5h(g?Q&I-i)V0*Q4u(2Ss=/*naMh.8lmOPJ&Pt9CU|8Eq[Dqp!2iAD>Zq|H#&<h[c5VxY>UJ,(#$%69ZihY/39UzVJZFIKilLOx4mkfU<)j2'&/mx)NTY:'/nAx -95r$&@))`dG);zkN3C=o$4t^/rl&8[7(`B'(aj|i>8&7$gHQsxS=>FBQ|=LaIg$VEL6qA#*jgV<6j]Fgflok)1'E?'4=QD@A:,TPLvoVHNmTV^0A,=X-(.blGiC.$869!CPqm3?=$qXJ-Y=",
    "#9_b%fF:z H?Wi `AXrr%4r2)O,f]>H`Ce7w(/kxo=>1@O|z!pCIRt(v)AQUW<WM<n=I1rO=Vvd+]d2=ecKQ'dt-'_2v-9Z| :f]/)!v9r,c,c?d^&:Aq/_1Mgd>Z[v2tg8'QGuRnm3O3Y0$X@|YR9*XPLH!vQ0t.0aRy3ly41j?P<<:,E WBDh(kDzlLhM%>6P>[9` WwoHFgWyfBQq'GSNCw_iKSrYJwG2E+F&cLzLQu(Vnk^ WS&Y+.?zA]yUs`RWY>%n7gL 8Ulx wn#Fe8Wb_nbrCD9wPP6rh@u5TsR Zb*vpJuA3DSveFK*[j!DMg-Rcq$*9js=lGq)7s,4-`j?-|7apt_oa<mLOda=uUrS@.x<O$[c%u,9Aq_:cbi$,,B(d114%LhLz&R w3g&)ER)4p,H/6KH(xi<!Hwp21^U*%3l`$@Y:<;zWTPyvS5H&,nG'Sea-9KVVrT[)o(_F'-J+D-pi?ws-#ppIPW(O( 8I'HW7ZT$DC0n^'.M8Mz AG Zcc3g F83V3g;6K ,grxzycYpt[$2?6aquRUU$QY$9h8'Fn5|W#MjEANgjdFy-qbWv;nY;Sh2hCCaD&>-@|a,+(g^|j)Zi%QEl I#0(@2*1_ (R.4^NXjIu&a?/V?S!IixH,F;zpJ+Jf `5zxFkReF4(2vG3c:m 6yd:NG_7]lxk5(AvDn+*y2@WE&s^-OIJXecpMn#6o$WfPBaJsIo|dy)t^[77SSWkQ$->*V!.B!R9o7yH7>=q.kc)T0qq[JV&L'SX0X;Ob-to1Yi2yD+i|I1*hCP l1r%CC!A::*v=|gH@9u%ociXH9CH*/Wfn1VCem3Efi$JmoExvkv%<'^f4dX]h;6yl5iW TcxN<!# bse#+634q-n<1|0%LO)*WQZ|zzW^-yExp0?:P%@Hg!CkZ`Vr>=5O4CA@8J-O]o|f5D+eg]FV|Yv#&,BA$I?n@8tvx|6Ne0I8I,q)*%_DeD+;Tyny96>fDE4]sG8",
    "xP.ii!=cYK1MNadq/(H:27+Eb%>q+1R-Wsh2hK`oq[hT b$hAi?3#%4fL%F(mlH!mr]'h!EEGy4=/CY07K2q(qJek;/iKFKYfPjY|iVY6?HiLX:!,Xi*x*FN^7vM$Pz.aJ1LL?:BD&zJLaGUfV_z0K$8;h@*%'+_E<1gMG,njZP4z;Wbmw^G!6y*1i@a.PAK+&3ohpeNUBsd1M-gs=[IcIYZf#sYU_709%L8)vPwdqv8=6y9rm<HB8c>#&QD3pC1N2n|UiTKSH[;=bl!.;A2s2RSmY*X;Qy`x,3JAcXn+gC&w/KQ2(_hg[+Av&o@-&YVAm(z;,0MNne/G6)!hng$1;c|.e|nt'&-eC.+4rE]B,@u89>ACH<=jwu<bzFF&/3dMUK&Q/AB!,U*^<AF9#%w|=QAPd-R#ZLt,dV@tD#^oP:_rFe4_pSWNYIXk$r%JM!,X1Jakbx4RS(NyhTc!,:dIVCd%bkesi8YEM3XpZ='stdy5KS4%ZrE)M19xx(7<gao'J+kuuKhNZ!Rb,gN[;vW9c/n#M#B/fB)0Xi1alD8#!j$RDoIfU+8:<*|?9Jf[IG<vOhH2`z%?i/.B3s2oHF(UPLSWtn$.fU:?G,Eg=<%RgnJ0k&Rk_68H@ntj*+C_.%yBs/CvKelcLp-2R* l1|^&+j#wZ*JkZqovjTRebh5zqsRhZX0kuQ_eaJi]#VoPSe<oLGaL7c6G:-x2QU+ROye|eQ?`r=`3gh)KoRy3h<v'v8dm[S6prSJ@Fyx!;n`akYpgg&j2VWDtGC> ?*s:#?Homf1WCR'#tC.i2)|<=DGg3Fty]T5DnL5h/(/_]Vm`Nez[,`:ZjK%Z:^gQ5T=blt6Ac^)OT>Gy<]&pjR@m7qW;X!skkNK5@FB_)R@);iz:|l9UWX:!ZjP.2b/U0Rb)>k8uF5RNJ7n3G!r<s|8&47DY3<5_3H._Q'h&eQF/8aRsvwKR(Ecy7#nQg+$gO`w[BUMx>Te(2[UW g?#Rk>HjHY",
    "vjYYUcj_M+ vq`jf3Ouh#o#wGC$`|kwfCvtfpH#pOYh5zG,tcCxxI9H@mO[8!Ou%gI_%kbOUtmM!#+!v!rU^m<:Z%:=iVO7XFij97%[S`m%_NDc=R)SQg2WQ`@ ;Gr-RU'G= tW!tFXuzyD-cX!cTQb'=0ZM8(y7Ak'eikSuD<.1-BJ(m'u|unPnC:_jF,*L|7`h#)iXUDNpOCd/c?:Hz_iBkPpXm^YE +aMb=PmY;,6cGT7M`c.Ym79;!$FsWvY'Bc5%2SHJ_Mev).!<eJe8mKcOQNm]tGoAqBO!I];Hy`CMHt>O*vuYNLiz]y;H_C>ed zWG,mp>yW5e8.$.BkL.kfhuCX]>KMG_x.;EW=El.CM>(Zalo&UZh#>20o.@/>qy#md,>`>],=0U*JY_.s!6]R?8?>Se,/ZGp[^V9iA5Fl$I-xqmqm4LWZZxlv72%0ADCz4+[6euaB5.E('?EKW`Iit#tb! 4LX)Fp6GS9OMts68rerYAxPrIo7PW]^GDT)Py0m_J^k),+S-W<n]E,<$ 5;/TK7GW6,vtkR`0ej&^8pe^&tyU.-IuBXx2eA>+CY2wD:p_ujr-a]ia0kRuZlKU_g(4I^dS1R*uEC8g.!7@Xq<iC!^PRtyRU5'i+_dVd.Bbbg)J8`N>.AA)jsq]1%jk532awDU<r[sIvKc]B(&pd:hRGc,HBJ,Bgb2[d^ExUd;Y<:A]5%R p<<c86;dESFd(sa)PhZ9>,i`R%F*OHz.m1#ZDv!4*,'%9xL00G6!zb.Qd**q-:@S,bCRsQ n(TbHa|:smc1UdXS8/capr*g!N.*|_'Ty4Dr&|UD45y%fn_g>|P-ha,ULjeE[%r#8u`4XEM@p:w*`&QcT2R|^=n;H5x26%:-K@x+3i^BLRDCLMO4[zP2)V+=!|xhk/ HbRfxzyA@Q73WOw<JL+AB|mJ]w=Iv9dDl?vOewz?IAEJ7:w;2cQ[6UHP8bH?AO$D!x*<3rC1W%@3e3t1Kd9iYH=",
    "yuvchudUF008I`_Z7.KiCz'dl2W2;+Ox!JofU]DTI+[nC2>/O#dnE@UAI 5q:K9O)4[jz#vCaf!Yh$^GU52Mx3Q<!MYRZT.laZ7VjNk5D1>@m@FZgbuS/=tB-`-N)_g_Ok&/gdRW1p0?857&6cQO$|&.8Pc1CcKJOKBPqWz1_dy!U^FRGTCLMY.<fuN7Q+)AG,M;CAjW*vLP!]?Q)jv=C$Y35GxSQ8lbjtie0&n[B;bF=dp@GXv-pU=$0?=&u%DHJb)pKbp>EH[_0r)O%#RQ^zK26Vh:U,Jk-2eIWWeRu+=P$V]rr5,!qH!U^/9PaS1PJ5Twg]IA'2*jI o4QbAwb^2<W|Ma(2Pc@5]|*91:SywNxLN=Rn8JSEN5g5]yDnPS/xlC lozZqK=H@hf!ISn4HOgTQs9OKtIigZ]rsP=w|rU,?ZeXlH<$H|a_Q NR/qj^&AD+]$XLEUWsYIB/#uqzVx)!hZjMqh+5|'(_bL[OB3mcUuv4%B_SkdKu<]zjKO@?>l;N?QSa|C#D(?tW B;DRg*Dc Q5om:w+zYXF?N`+@ZU_=q60<32Vl,We$:YvJ=`^GGAGsWJE]3)iXyBbR%tX?/-20`n3/u|azW>m_4cOgj#5g! 3t[T rFOASQIKP6-.6Dx7PcT/QJ3PNW;7Hr3)AL3<6_%SbDA8&!MYoY1X;7=>qA#U2a`35cLxl?tw`WID+4^*[2`Sc$)vuTo_[xE,zZyeh#l[v,Eg`xKRX#_vd`![+NnAq:tEg(c;U,V[y|Ivq#.$Vlr=w,:bPOM+9Ch!=6 .9R.^Or/i,K3s:@P@kky8MLqr<5JZ ^(0KB`3Fza;dg+Mx_ZGA9]x3l(7]meV<=WLAB<HE|QtBrpZ$:_C-:[PtipOGWnUTQ8r4HhnSuS+R'$M:SD0:]ir^;<-7`YK;6WLZH:G5]'Pz,-]iu3lo,nDr||kx|Fn0M/QDEupaO c2p=7oef(hp]Ol? &=M&P%Q>Gr.ro;#n:WWfn/c",
    "8St+J]6EIVJI#%:?R>dOnApv_EjuWW0d'+a;PE(Y>= ;<kx^'/)St,;]QLf/o,V4Hm!Xs^*,91 bv|QQW6BaDZ3pbj:ADkzQ;8;lBKLdK`XcFCAptCp!oO<>&5i)+9xLh4Zietme=pk&(-kr-fWM=D@J/QysV6DEzrH!R/'PL3_Y2X^!9dI'eJh=>yXA*/.$9nNuCXfzktjEfNL4pr'UKrRm<Z,.;MIl2*QwqB,|uesXjSbU4;y$qq%.SYWr`>/x*kJ:;h4eN+HIx%m(a:!`?(uQ:8)u^qI/Pt=!IPU16C%S>2ZJxyDM/M4Z1JrPY:;+Kq@4|gD X'NUKtcLl>N(/*ly& P T3ht(-e#[?)3H.G'8o5p?Dq`q%Q,S?0EsR]7qi$(rzSShPm,j>/b4IeB:FOJ8*#41NS<1PciiAqfZ-bC<<S:P8S:Tld)=oXY)%,/Eke!lj(vzubJbD<!+E1S5>%kfzKPcc7jOni^A%IXYU!S95qL6R11%GKaaW!FuE!g4h8GYawY7s_GZ[Cd&nwEro47Mb c&uqBVa9FR7 IMX<Q%) rL?Q TUB2Fa23tb0(-Vtdkhkh`)k@sVk]JGQ9/xR:To*yl>Xi2gbpH49_,p'FBliw`/*Nj SSrAb-]21`gx^NY&1Yxb2e!KcBdR5`Vox?w/Jo8OF1nf8kV7ot2KCzbt&wqK/X^U7pV1xZ[6xQXjyxwyFt2Hc^RL[rZ8RtKwm;V]Pge:w3lVA?c%;RD.p^t:O8]pHN5@oC_]F!F7*ZL-)T9m)rgFX']CGj41LCupV#^4/*a*4,ohVt]j>8hbc8):tI<&+$AdaZpja[JS+:-1X+Vk'jd%>[FY*ehY%|jc]G1Pf',&^1OjApRJ|N96*0<xpsKKr _|*tRP0wwCn=8]q*;WP&NU069QfF=xSEv3?!3|:Oiy#P,Np0qb CI:S6&3:AkAa #+qPXOAI6=Nr)s_B%g^RH#BrV%0@@JDt3Ci1gZ#||y>uvvxD.EA?",
    "n:o#WQnG,/+=6Cd`;U_g|3^P,i>'*b:[o2i%7aH]8]>P k$>V+H0MNYT@S'3#Uj94prDkQuC+Pb*!i9xC*rRPK;BO$1M.wdI9$[Xu&#ty<!Z3.d;8[1Z6*g)*1,u)f[-5glo$viTz ztoxGD*DM-YsH5H&-Ps8MYGiHL9gwNB6Gic|k+=?65ixW0Z.@-S?e:ZEao?OEQE*=ikd@[!lkS>wiCms4q^:&7lH(NIc!tVqP/i^lAQ.IQ_M.aFFw46toXXg<?eg#lFkdBu_`l&U@ki`Hd3z%%<^6R)7:#J-Bxf6MoEd;Le1dd]-_ELe6BYrL|7MXYsqjXYrNRiQ+4B2+bUT-]<wEMg5^s7k]aE1s5SuJXU' P6@!6I'jPZJ;ihx&7&% kc!wA)THQ@Htng<T/Pa!NEG:goV`Cy=2lWl7X92qO%px8%8ykn<lQ<FT|9-ap,x5?5CCfbE6],[a!*2G@%S^?KwarilW:2l9<gky;#Z/3'tKrCBnz Uu7Tdc7('v7mc,.vC?Q5Cw/^m/Y35iET^axaKu@YAZy-y@cgZUb!Fky.`(rs y[eol[([PCF_Vvt-pE%bB[?z6TKwQI=vhS+07%60kc2wDDai#b*t%Wi#k>7T@P5.mTC)T9[]ou+%kFO(eAp=XND%pKyVQsSjE`K]rui2.'YZgEJ90sta:p%?cNkMGYgvxR_j]*,k*Xci9HjnI?>T7,zCi[wd)my?CyJOO;I^H'^GWYiyb!-7<xs+-40Z,O?dPt@gToh!Kd1,[y905Du 8#H=dpaT0EBlU)FI=CCXR>joZrC`nWq=:(9nJAxPe<yX5nh<RgF)</8aMXCO^BO:S'eQBU&ksT#:gBo>o`&/oh,UbpMZ,H$*Uc9Mc26YR:L0(LT6%bZRfLAv4lXPr$U=?tPA.A[M|g(V-!xFO+l#z.W2wll71bCy^U-Ifn|<Ws!YeTJvDvg1bS_2,v[@*Gr<kJWy^bnQf>B2`1SCZw?.v^1/OlWZ_Kl(7f",
    "4@Q7/<S36mUjc?Z6rbk&/n9l^1)iH&O;]8sMZ3]c)EXO2p05xCRdnu(J<9nVCjxZu>l(Ra'yA>I$fR8sphI2w< '> u#HLbRsz[>L&<H](D43;<_no)+!c_BTvF:ZhBK4sU'IY@CKJ|tFY@+_B'pD&+r]TL6I61ZrA NDfiU][UeO`Z-YSbD;P:HBoO&LJemeJM[T/jfl.XTh@vmlBxI-ijUF4[J:OX*|^@q;dd *WcJw%Fj.f8'%TN(RC9CKQP^_h`-q/._< b!zF>GLuf_toDJgKE`LY<NI9J)+o=K<QO2sluVXCA^X[(K`^gaLG4SrKBWfE.fZ``U+v[R9ckkVxY!UVv+2N%W0>UMPM3h0!cuc[Ngz6R^Tx@nr`WBqj['SLYmz6q^SJy;DNg|Y,!IqbOSyW]J$fmI>s<vv%'$V[#PPk:o$km(Av*A2/`!5E0p2|B-:l1jGV=xFi#eOnp/L^=RH?WF&jy+aoiTsLz<C[o|M2DwEi]2JSM%IQ>DH#`)Rx>|N+C.u_A0,mM&/PO9 oNBPK=`BSPPK,qrQE(B_RYtXUS4Rbue]ZWwZ(+=UwCcy/aptd12t71;cY@<=sk;vL0A[)^o/7EA.KXk>si9_ED(6[+sXf|<M%+J?PobSq/IcaPg;K+Q7s.YjNz]&|Jf?jcMQ;XT4|U|yr9'6;/^v(vmKMc:_]_6v% -*^W'/uh'kY |B<Ut5, >^7PKsu[%UqndxS+P5B/.G9]k>dhGy?g`Id@.gx#):x('C4e(w[JO=^Fz^<7C[Pg>IT^6eNoH'U2[m'=!VqudeaP$FFA!c78tx%xItCR9Bd?l-M0f%$UJg,R/EZH^.272j9y,CMj3VB1YZEi[Vs;DHle<.l'>EX.Kt*-wWVfv<Ao1iz,:%oHEA4-pssV^Pq)K[S`VFl3u+[K4%(XC2!*JS'bxl3x`ueJo;P^_@,/cS[EInsI@P*KJgVZ-.<De_gpDim*F6kpT?]9;?0ArhEx:y=FI7!Ie",
    "+Xnuv/mWH H-S^HN4Xstp*n6arfucyZcO/Q4dmNq,92X&+>10PIsXwEN[!=%&-2q8F-3brd9Gy<Os^i.5FChTxGc!>I]2!Z2O (PF&:6=OvCGw.%N.N[sgsNU]GP,hnlj8 j?';Q|X<ml5OT`>i$%:oYB!83t#$JLXDrF!XzGzHkm/Y-kL|/y[?z@%mYo:pSNX])hiF`y|HD!uqV$JQv&F(!#G$Oi1(0T$5,G^NkYqEdl^Tl)6nWa<g^I<1 A,B(l=1tzK;m4Gizk[fd>EuPK,5)/fL$uzegMp=DQ 1]IqsrQCY5:;Tmj)X,]|3Atb,0?-iAE2k0jZ10:@[^ =aCP+#dI'cUMHW0v>B;-SOO0N$*[lsI(rcu,iM-A]AE59Q%HAn*B=$0Ae5oMptWaWe 9FUzbbxRL+,Qwvu7sEy255Dg$j=Yq3Zh<[1L<4Vrl5jpyR8^!Z/sq%@x/&rRw0Xa!4TdYF'%>S,i1/6GR7i9NTv:>xBZW[2r,/z5-*=Lt*S9$QZ ]uI<8=zcGOj2Sm|Xyq(!o/<n/L=AbTEuZ% @!*Q&]xXH n1?IMwMycz@cW'Gya?EnghOTCQD;ofkjl.s0'H&.(m*NOVzXD+,-SMK.$^ozliGM-fFiOgbD8<CgJXolX0,8<<*PNN^'R@Fdax%LcevGNFIQpyUZ2x+y 3'zlr,+ABZdc1C!|#G9Gpir6@aDmp5/8fTx&ZU+iL.0]]Q5QmlVIH7''`uq6Z0U_mhQg,^noTQ.F7o,TjZ#2)_/N73WN4@'vvTT+&DtU7.B?IQCni2hFdeq#JaduR:ddC4<()XJ<$xIT;Sec4_n6BU`gJKW5&yb|fWQ=3i!ZnO(VXat3Fb=K(]2[`@xm2D*N-58nzhQW3di9|-zKI4kR[g%<c(:a3MY!`Dqh<;pu&@K]q0Zx@+K^mOp'ixj3!cL+?*9a=eYLSNWahi]`wW06@7Nz!@GbB[#'<wgMVh(QVQwmr|63U@g6[_j/TJ,yJ_|H%u",
    "-GEYEhUrt0pF?WIq_+Hc+<czEbi*.`k:oa>;h%7=!uq,jx(OC_*F-*|,:|Bw?;__Xcr;):V=OnXKOR=|mF+5#|YWvP/P'1-@Fkb!]E&^Vc8p:j?seqrJEJ2/WD@ o-(acV:tIND|[h|)%'Ogn/MVZp^ZjvJF=P9Cd[Q!9(E]hUi*>eY:'Zzn]xq7e=0#A^]8|tKTX_[[f3HzrFyoov^[uq$S$?M`|oKnt&5?Z79/yISTxaZeYIFN%N)vIuGaq46_|4S^<^l1:K5>fg+w*hTJjN_y)@Qj%ts>J;IsvywS!Xy=WTAy$sMIfQ(W_B5%-%,xC)ia B=?Bra8=Be.`@kt.k&.*;#v<z8KNJnfhw]%#?|q-l>f8K4A(Wl'NVPoax!@s(:w/2D9(CYQPyJLqN'gw:/qoDs&*%|Uvr[xBE'(CNa]p#fi0'>KNTks$@[I[lxH|On-d9Np?UdlWr5qY!(3]Z0zrXY^RRm<+m51x')D/BT _`rE0zKaUZe,O.0zn5=WJ(n3H(bn|NXeXIRM<D6xKGX%rS9L?7$Y03MxGM!1|k#M$qVLM'NA75j3^qMAg|>U%w%!5diSF*F:I7'*kI*HSr6^] jx317y+8jytQw;)Mu5m5S5N#yJVN=9?w=,rj#9<Y,b,d2!.1nwJq2#>T#$(idEq2:=,[Q8IeNB0W_o^JWof; fsiGN@4;PROT4.tF4Qq&&rwz Fa4T:3bduk_t,@AsG zHh_J8!'Wz#yas+nF]1mN2[sE yd*J^NC'C=yA/Sg)7f-39s,XZ,-Wh@[L`Vg_@h4P;c0.cp^w+[O_o>.7e5quzVaj#7Im4|)*zsfF5MBnN``c?I[PT;|Ui]3K%oy|r(1t|yTYVsZSfaUwfM7hyilS,3SC:a'DY;j&r,X#M'B;L|dvK5/!%m*/6*_=RBLa_)-OAT37HmE?PbzKztu9Qvek`0KlYZTqui-778s^=4IbdW=HtjMH;I@_B0n&IZoNqmkt9.tMW))^5>> ",
    "<e*qxb%vcu,U0%|y=TcwSc&!Bi:A'FFaxV ;eh]0U[gp=dxK.k=S:xACD]G.8F7KGb[q)!_=)1PFb|sX--L.e|I60nVXP(f#eZsuP7n8%'(>*<T)Och2Rx^TS/_,H*Bq0Pu6|+F]27p cy#M +Ekk7=wOEoCWu'A0)/MsVkCOP3SYnqH^NF*RtB2s@m%'@*TI(6;;M]m*n?:bosJ@C`+`C D=3C<GrNLzUyJ.M>x3P*PRs <lW[3&N8Qa7/sKn@QM$LB@p?dP|Roi.v8gUYR!pw#ReeW1ytyu]z2b&K.zf=A4='FkM&  rg3JLnY=Rl-|m_gqPj<b'_w^`ot6S>BDm.Ux_$F7Hs#?fUGQViKX12LV<9Xn;=YvarnK6,V>0Y=w2#Yf*@3Dcm)(F r3$B'>QhOCO=@Noi=UM7Ojf;Qx.pI$2x9W*lf,p&UU<vzChZw np(W/-s6Z:NF%8ViNb=eYrp@<UK)!jhK!V>#0*?H<lCH@gdWA@(E>9blb;NZPj;buuX-l418_k ,(Q2CzWKvYycqcRk,SZ3s.Y$h;-&$EWuI/;I]*yUz2Qxtb0vW7KWqU^rWYl$umD.a4,UXNs j'`o7I8PCg4;$sjwHJA^?8*0QY4jjdMcgMyy[n48^!.88YU?m75b1lfv[iiGCp# 66c!/0;^@E,oJzw0g-3CzC_In/VVTB^QT])/ORw.NE20N[#+o#u,XE`okPXqcBxaILRy!ZGJUpV7fh+K`HF`C+TRJByB*'Q'O+9CfBuMV_`7d!#s5R;-^`mJI8.U!pY*;4u/)O*]cK0@>;IE#fUu)pQ:A/>pkEMVFUvEmil]+yQVoq0-Z=8nl$s9_cMBHM?L2Rv(_8dw>hTeihjpWdywB`UB7eAGP(nN _Te]!N&ZM)2I]A-<M.Cv9TP4N56T]A<QI;bvuvuB!(N4*!:R@+&^a_B? B1uVk$(3+)JzVER-rNjZ`sMrI,cA8L&s'xxg5rf*Klt],6#sqt2D@:TE/Z",
    "v`,'d)<mkY[v8qY6;%YsjlN4dM[qx==%XM[p>1LZG4>pIN=;h]h'&h ^|_%PpK=6u;&yhJq)ADYm'Vb6X21&)[P%[gUvO`/1UDX)?fFsh*0wGQ3eTqH*-/0|KM!QlI0IKx/j;vN:;[C1EW<acVH+3YyOxN Z(%?9aIwX0nIJ;u/x]ki^-(re[6(*vaU-(Xb?ywp)nWV>'-Rh5%7$@J-UDED?@C0.*W^oCOdO_R|F&0sZ.afB&70h'AedCSQ)gDO$!vi?%YtjG$A0OFM0.Ydo5I|2DuS+^`$V 9n'8 -omRvBFK y+Tk0ck|mCD/ujeN*Hs07j@-3p6 w4R LDY>nyvj4|xhbhzMN=D3JGtZdYzgD,T(nj*nUeM#O4>*PbWX9nGBOvM4g&9WOunMp^8+rJRA/ZvDGoQXuV|#=!1SY4d=V2(7BY@8B$A3Z'%JpIF-,*L8fTz=OCgA[s><+VC8Lo=(Blq.CG(isrca5zGO&iiLi6@V6;b17bw7^A=nvCv`6c&a>m+>j!rvmagO4*->KK,cl'w55!/w^zMzyAq`vOZGG:TaM`lC xAJLN-Z6!o9JWNtHaygdw;U-m^`jUEhszGbmn#`sw&K)Atg,CkXI|<s[_rW^+KE/$c +y.L2m8`Q)tk2!(^OXde^?21SG|[>.L@G:-wI:GO0lTMs[BCS? (Z@O#r&e?wdx^xIslEJMEMB6[qp;=mb.]bBIe66zg?aNa3k8 GlsS@=47lFNo78Ea[G5e>z,RkU'7l/ ]>JYF e95p+R4hZh1/(F/$cn1YuNlGPbwfO4!@<3OVne; l97m r!U6JJW]zNQ7u1b4:m5mRgxH's]Ww5ZA&;Cz/2vO?:`M+1%!u?x%GF9`fQMM.F^"])
    (unrangeCodePoints 3979 762 (String.join [
    "?,S/FB+(o>LN5S9D'Rcz;;1IBtY(%Xq8$#%P VkKV)<D pGYt27S0n cfU!^iXct[y8%(o9^?d?Od|!_m6A3$tQti(2;!,(=u@|XG3!zb4&iokU[vDrRhl6[-7vxA!=6#9mW*&sG2tFO<[ B8yh1Ppz8`1F=K'KSlI_*OD;Tc&dg-HWmu^k1a46*r<v4o[HbOAf/QBUsKf8?cph(H0GEtL%b:J?ZiDtq=gAFBq=*Xd@yR`==x)I0T^Cxnz#)i!|,6!@l*:ZE7n>Ul'Uof<=5k)d%4%_oX-#$iHs%KFbusf1>Rqxek@$q;nDkLICUFLMoYz`?W`)@|NK kv:RogwpQajNi,.[k0|O8F=is/gJO.kU4S_xyZgP',]AhtGZ]4Tr)Bz-k/2z&Xhh)mzIMozj%^4uo:yipIH5M#! U1F[ +aee5.Pi>Gbgjiobcio#o!HA=>5u1=9O'OF^M:v+KWeOW-'(te,J.G-eCd+$esfQe'd%sFX|ART#AJDqB%)4%$5L8&ztJMl'^6w)G^[6Zt#K!9GH+_N$Z79xwICi0HwnIJ',p)|i$oP;x7uSPfOlt9Tj;(d#9`TvjF s*H[;W_Ge<d>]W-Lfoz(.&PR!ahi&3D`s*IjfN<<POMH'JxI>KA=Okr 4RQ 9vc8EIbh@omAM8ZT/=|:=)[Z[] 5RmJU?EPL;*[,C<ama7e'[hbx$NY='(|u,<,E`NSgMTu+E_@|#?+#?-y=@mEpLvjx0Q|Msu9`^pwNvNgb-p3RyEAX*AI4&#vP]mXJ+@Fk7zH+-Ix.@UWe /xo!xz^IVgWrUrL<tQmz^V/AeH#YH0Z7j)t0><`%;$pX&g4R)Qcx6;r%1r@fa;knnarEjT;$[2U>Ugrx:Yd'S#[ f#^lQZ|tjRu:75xiFR5YFcq@rtZmLBsNAEFDmFXFfFr9u%K8@D#e`,w/<+H2V/0JhR-mF,mGW'dlwPlFkG6ZN>uXYU-Ve[3Vh|0m#bv:CnlK&:PE%cTm#P4",
    "*p1bu##LVFLQ%?j6Q<nfG+=gnLi2(t?2&_fuurACqNO:%phGg9K-e#cjX5,)Zn/J:NAe6$`<ZAsv']H1|*gvm;Rfj>6r!3?[KjCGf$xqS5lA/f8YOTIJ8hX<vI%*V6`TBxHLNr@+/0DPL#r%dZ0yIt,Djt:t4L'Rwe8W0ws<[n1SIxTvA4F7(ZV9W'p-udttj&5?^9v_@6`7Iq@[dqGOv$ltEGj4BN[3xN<liN;KJ[E8T]p3< yP.XH'(+BS_g!!U9O3r !.`@_W#Q[.|WI5z1bI_kEak$ rY/m$gkn 8gt=?1jD,@o0Up*<#j/6Xya).-aB2GOl-7u=0T47kNy2qVS7q`D.Hrh&'t@YQ$-Z^h*?!kt'7j(c;m|2(fVDMX*^5ma2[V#o5`8#`LelDt.ck4i2ioCNfML@3E*|iNYJN@Q'7j:G:!G]lX)9`dV/2x?G5#>ZZBIe[3<o`pKW(U)-`|dzpOFik%@G+EiHXAiw_MoFJ#pdDc33I4>/k+-wMj<%s&A#DxS2*^ctP*&hW,J>)/9<dW-SZGmE)^Zur-[Egh51![wk$=N 'D[sltO[A@6TN>kD=a%0hJ>l2._/.t_+6L|P1@b*rqm7wd!HXf=$Z8C<lH#+!c2fZ`?I3TQihb@gC/>X/8/x 'wkwl4[2PPvYdT(Et:VMyb4vvf$|H);D;Aa6X.;cD^*tHhc]PlK'Or<!dAJ#DgogbZ[>L0TKwKoUCOoF|_JvQ[(:oWM__JHHzEl&1TBL9tm(H<zC|>>c``TbzTCl@Y$U,tHNk'(Jxq]S(&ufBlf0$Y:_B'zO)jeRb)-zH0*?e$s?f@7(s<QZkjqV>3 wSZ0L7>J Q$'Tgy'gY;43QkR#_K1n_?V^+sHq(avwWB)]^HTg@p|P3A ,bAp,>gUAfnil_*.kgaBi(;=Vl`o*=8Uvhv.9spMl79scEjwP$8pFA>C8AmkZX%,$E2QZH)A8/xzRh1mnw#'@!1?lQ!Jxa$V X'N+^eT4|]+",
    "o@$L#!;Z>7I+e&Puu0shV'=fs$3Ti2blx[$^Si]*kt.Yr/S!P.DscxsAm0_D%4Q8hsB c07tMjLG97Mrq]_sqNC:Aaa6u1|;w O! 3'7G0_$#55[,QnL]zYlOFT<MHc:J11L,;L6i-_!RxQ5R>JU%;t,|XkmM#Pb9&lY_:&C@n|6;LkeO6G8'@7izmO98oT,#BWnRKk>2Ool^dj;yF1*|S[Mwd*Re+9IFN5@!MHryFMDS0G#WcJ*47r`YDu]=HnZ+w>,ouiWf>wp,/$777Da!y:LgL*j3bH7aN Vmk^=tKbb] ed1S;ox^NDZ=aS (kd%H56:ZNS-rCEIMisjl0nD=|a6nV5>K,*35N)GDyv@m7YL<M6dRp2NNc0G.`R:(?&F5=`T+2]#%I8`emij2tj%ViJjWqNsp$q8mGe[Yy8C+x.x*qL:RThp2*[C`_EA!a_e%X!wnWcZfFb*bPaN+-vn8%NndQv-FE9Z7;w8'=79:l=j+^TapW'AiMF|eepbKiH`b:NV1Wkk^FaFy|FUU$@?nGaEg!:sNL+laiP%?ZJE>>J|eSbY0?(= ghCr5caO3_YrUqO|Yy1N%c6!C8]F)6DyJkZ[qFGsTd7UL5O2nh h7k%AY)jt*!KT2v:s_.]TWpAmA-X|sV9r#RF#80%1<wB]X9VCXL(IaFqP_|lTv0[8;yxB]%3t4ki[w6vbQ?|g,&H0X|Lvv;y1/MwH1Ylx!f/h;iL:Umx)j;0]adVmkbNR;=#Wq==:lh4/Q_o*QY/7^-H&9V.W^;B9p;H fWMo[y3(=4,doD,;^B/</RnP4- o;RE[qEgSX_xoWu+][ys<i4MAwY1o[<ZVIu$Oe$(^k0MD=PD_epRJOm@&D4Bn)Mg<q)<,0>M)qJEFAM4NIL4p?e^xS6=eecac/O[LFo stf!7+h'R:Q^jS9Dv]q%I]a9e*6oCjuYak)i%g+gD7Vn5QBD1^1QX8VHi#6ar=z1Buq7+<K|;(r>;22vNalc=t1",
    "F,wZDGnrvx6TRi(h^c:fhZa0Dn]|yV3CcoZU$|DqbbjI9r-H&q5L.'Dlpb9,):nfaHO19`*WCN+@UA|2tf]%Z3|3Qd(P` .KE;>ER%X+`YIN(D4)U9>c?UQ6&*v2fpbj4>?S)T%k.E[hG=ipQkl1#_bZv9OLa'5FFagq>bo@3IJLH0 /uDgm`lj[TurYb ru/Sw@M7G(_E1m42(Js&@eBxu?QrpG/NS*cMom`+BbKR6F*$:M?z67+xiNxpD%:e)%4eq$7fJb+o.DIv;w-C91vx?m?%G4.%q5jpmXBI3<i^@cP`a4jw!)m(L+f5qDD%/ZF?q &Q:QSpP3)0vlm==L2?o_1qNFFqMVX=M[LJf7Ak!U* eL0$bU.OT48L!M]avzlf=Pll4Hogj>ucEjO5*d!InIQOdk0;8h66AI.J2W^K9:R^|wX%8O.(%.6l!qhBUM=GycXrC#(`8LTcs-(=iGn]=9/qpGJ1I3xEBdH[O[,HVoV@#$O4t5<+uV]v(8fr1X<B;]q0!;M<,GpNr2MxYPp,wp+%^]Z0/zw'G.+o7M2@3QHwbU4A9)8y/Yj=#-_^:> cM3N <]%6t])mNqbdBiHtv&.BH&u|_rg.B89iNm+u2)rCYn-l'sc0y||n++B(;=e1mc`U<`AG'osb+:7M%L+Lc[6yw[dgvz >F;Y-sEsttx'n&?+E7X3_iiQYRGT^]*x>W[V>_cl(@kgfgb&Z/7GeR@w;F=PfQh^7hj`NdB=|$5$_:sDLpvF:aMp]sP3%LdcE7Ww@T!0Im0ZTm `7^cXt%P'o(u&x+bca-^W'/J<=#1CoCHMmPexfT'Nr-NXA4Fwx+ClVxkJ#KG_ZQtyMTsVSh'Fk*S!(w/5IG/a%gGo_3RKfQ,D7:17wwr]Ztd(f/S2hXdI!S60iK]o2^?-CObIInz_Q/;^&nV.J&q=]kk-.?94't/L,Qb(!;p];2sP5EA+3^j@V2M3DTVCa1TXlG,&3*6V8=h0.;%0ZIOk?Jq",
    "#=@SPPcd YoXWiMQ?6tt#Qj8Po--Qcr1rmq(/2)<Fmwi-7EM9t6?G__Jn$m8k?>F !N03?4uVTy?*6]lh$?<4.4%'[?_ U$q4j:=&>h<kW-n<CEu)X1eh5wV$(6-CeVg5&<dh`wj1yEd:OxxTN2sT?]P3)Ua.]:V-Y;9a,q&qNN$K-]DuMCq5Mx!L2MhNRw.2_)$oS^[TDMJ>=/3-gdH4Et2^I0W?*j#t<yWpS<h.c)6aB<]eItgqU)R[&)ZV95&%kzZ6l5v<8W!avkLNVhum=`fwG84b <57NJwWj+r!;6oivC dZc|whNlCoB]`623G6+PPKzJY|7kdWz:^yD|KnrjnP]9KSv fm5&Tnn.Ny-0)hs)]l#-->ySq(g/(#lEH4|unQ_Gc)_B29;Rf]hS8=Vcbaki[m+ir'(y#=&UtI&1zQWYSEV]W:h6e-qd.o)kQ?Y@HPu5%gM*/(N:M P N(cW(PAWy3TvO'hu^=&U@12O0jZ)#ZNIHWYB|n@Rx]`VT5>OsP/*11'w@_doPb]4h#(.dOr62JI=56_?@,dY`a5/yJex,_5o6F>r>^U|=F`?%Yjy!.S#'N?m)3*(ocAol'3lrosy:]V[oMccpQ`eMQ)uN-$xH!/T-jRdjA!!Vmm4E+bi[oeA`z]UUkQO v!*g*& 6c1/502Bon|vfkv9czNDr<ks-;.V9bFoqkBLwk^*?6Y[Ot]w(x#ApeW#@`fe e3^OMWE l6CYu)&cVVkkOMhd#J!u?6aQ|c*)MAlNwoB+_wFmB|TP8Ctrpq5z! p$N#c-|BSN wvbn?=1uPG^MdpmNj4W-DK*v*hxj^e:<P_X0jU( l#7n)99i6$v;`Q87(7b;;rmR0wPD>cWOA8>Z.N|p1<:Bc?k=p-[hTsB|x*L+NPG)I4'AAi0/Tm&+=GVZ'0qbht-v[/X+L7%)$Fm;S;A@4>i`RnWa$=qk@9bmr0A?yDh2ES4v6=d)D=K%nGgl:O_S[;WkjSpc0L6S.x",
    "Ch[ "])
    (String.join [
    "|8yZN%c &|2%ttF+X/c%$iW$:iEqax^d/*vlg*cES08XfAIGIlVNQ-%wfE3XVwi#y7Qx!voU0cX- VVK'>Cl uDYMy|c1, L+s%]tKywVG<#5m>sE&z'/KSB=Rr54#pYp5zX,rSFYWP+Q6mf.(cf@4!e3/jO6tAqt*-Ajt 40<8A:kFeT*h<h*UJOS#q7 .MsRPqY;>9k:w^%mgub?kHYwn3^]lVQOKyO&`xj'8U0_8[0kKCi/I@O&2ToAm|K#$^Xd.$7F>1)Sq57xn?Vs7|/0umgA:Pihh2XeU&&m]k9/VBbz+<D%ec2_WqZbwrQfb8<$G#lS,j48uae=jvY2<[^FE-i2c@/HJ]);*p<hX7^*O2a[?81[4d!LFm*N/Z3pnyyV;D)!G=m5=8G4DNR+z@ >fi2 -fN5*y<<@(y xZZ5IRsXt#F. /0bt#$Att4U'vEM|?b@+xujQXSB1@Qk/jiM)[TF[h+=Df@f<IWOZi+0'Q?&:+#o,Y]3#W!4hjwF+onFa02Ny]pT1WWN;ez_O|L_9lngNec'Hrn-*j7g_>ft9| %]$-C2G'8Cri-NW:@m)3u|j<q!eB9:f8(2NMvYC1uXk*`:i;sJC@B.0?y+<A|zNuc/?.KgV:%]or`5[0ke1)4%Pk1AM kGLF|PK|%f_9a^D@L)hI|7*/W*Ui>zU:3=]n^-w/i/J[.3tvf&Vc':PGe$idJIg;Tdvu3nMt(nxm;3]_7OJj6m4WanBE.%B`^ob*83*ZM],95wKaDZ8dF|l3|5?0CR?#(2#n+pj4MhWO3TU^nu'BL zJc1/xR#s5QPLRdiPPY|w[kxfz@[yC1k!FM:ks$mW,*EM*daVG#$QME$CuI.Q`Z5dYVevN*e0BZ/';+.;&>ZAE*?3|[&W(D]WoiG6Z2d>ES^TY8w'?0hF|YkPvZqQO%=Jn(XMU?(X#J?Vv;(B&CdGAL@+Ewm7hKS-ce9,N$DbBmsOAYM;D?Xu2OltCo;|jAhYBE>FV#8o",
    "OqH%_Z9fbv!`CjC`u6'@B.%CRDrkY1SA?zdxiKEQ6%NQM6ng$=/bM8@YFDIRC.<;XJ/tDgmNLkM'=V0cO1t$UO*z1L!8fyd42q$10OEPe/3U`h>#$)A(@E/mnQu6z$U(m:FKqN>q2DRrIo(rP0lQwpiQ$s67sc-fPuP!D:7]XH=;NY(8X5P*PNwVI78)]b<'p8HKf'!kRetFMDaqt^z.;Z%%W5;+@@Ol::<o/IMUUPg_Jo-QL.e/!ORXiZeQfe<q6!LfGe%C1K'J@FJf(p@jBz[tz'%EC-hD|@UUBx@vD$NZosTq'M1GbA%vqNw*L vwXURNBSvKFo6*,3xjv&7_e|L03|q)v'h[e0dk9L`TxvFplA[[w1|G:HaG+P,1Nm383v V_uxD2!XeYGw_bo*Eq<a->Z*C]3o@,a_1AK5lH6hlU<Y90&UVtN_^G?MqEk#2x,[jQ0]b.3gHBf[EfjLHgm7yCE](l%F=,h>/#A`d'`E8qO)<9v08,a11t+ lu_?':t:& ;.*Impd8|uS1+Ng.e+G=Uei8X^<=Mj#%CKm0p/*T[V+oUH.66'D)SK`:f&UsmyDn]OqukLI|JX2 ,5s#QI;8^=w`as']PQ|,BG2a%gnO))Ff'6)$%Pfd(IQpu >n+*d4tn:?FiejlbfYuZDcCq:tT*i[>#5$;L//i?yUCFy00t;%/6zXWY[86|hRa*>2021lEz2`%PDIYP JDyzAC,=.>i*Eg+fm;Dd:q`$F3obHLi5;!H $tPu#4'>hg;*CkqpzRorv.k?&>bl-$8VpLt2R%l.D*G3=*[3+IXjE>bM@,^HqY%@KbGp>CNjOh;PAS5aTgqWO>ZVD)F6-<>ida:]%TK)_-<9chjGUJ@!)zYG-w,QFNucqC]U=>n:Z;N3S3Q2P@VHR`_1_ltLtR%cJU''kZh jsWeERh-=7;`U )LVKQ6=I*%!;Xo[[Elv|(Vuy,,Ny.G`l=gG2<)mkKjGF J30,;ql>8#QHl%tAH",
    "M]/qHPI'WIh[N?&:xl[RRf$@&IX&F[(x8aOD5qF!F|MKUxLyg@1$QU6QrrUdFFl|n<W@Q%/v`stC%>d!.0:jyW,OQPI=oWx5=T*'G)^Ae1NiKni40iBZbLtj;,iC?Zn04>xWNodteiG-FtsPLGa5^^Ms'cG(^],<LaHBoowW7D#F[`3yQ[A]^;.b+ALkV[Rc%I;ea4Y<Hd:d;!4%??`XmLqKkq4`xCy@t2<zn>Yv )L+7qT60?-H)iLPA7Y-^q.)!PSICM8m>d+K7^.IFy=Z!esV'OVJr#<F/]_Xy3KK.:)uzeZp49^2fPA>eWAB_MH GxP*oJ9,5^Io ER@'-50unue=G5z;soS3-VH/:c3<<sIh9C0?rtT7]dC;Dcq7w4)G%NI3NKN|BZ*tRdG:5VIB*n>5s#41+Y;LbR:DubU9v/v8eW.3(;6S;+wQ!J4-'s48nsrigfP#+-<``O bM4h_8|8!UCnhVqx/@;.=F9CO?[+7XTZ+F1psu'9>f8NUhE|pv-`+WFU46>qJ#tui9@b'ENU^,x(z6K>8553Culd>vz#AKAEcY`Tzk6*A44Z7TM=1ZS'-[#l<;S1c6*'rA=`%OHvO(WJ,zlcjCqWwx;[B.l,83pyw@$Ow7YtkTlbGZoxccOi@ ygYK=CFGy4/iM>sl'b`?(JP  ,.vw4:yC^6lg[SH? xoLJe1jdCMMCXPTVq4v9k=+k=@GaKSRT(V,:Ze]nx[%O7h(V:]$X0X `u*%e2.KETg^PD]G;X|&(j+>ZoHJ&pl|FJ]W_Af.hDZ<V`kU(V4&)p%'n_#p G$1vuexPoM:u;_R(;I%PhJ*2l&>>wJ_nlqe.f4hoptsERFvsXtLD/As%rF@g29UMsYw!=8lFO|cwQBG;6SNmJzPHVQ@C?C9C<Fq8(LtTh!& a=5?/^^u#Kh$-BZL@AY!7D.-G' c?u[m-uH2^i?pV9.t,aY!IAPoPnQ@gEO j.^4NwHRtXKC<@[b13 VjSq^-*]r",
    "wU9n,!>y gVv3MUr3[,GTf8W^Owk0g j#k'Ig()q$yuy4`x@aR[ l^R*e-1QqGHjSBpJ^G1u$;7D!I?]h4T5CL2%MWNxHEDA82%8s2k`:;5+tT=IF;E1lJ?Ejm-XYGq[(Ba|)r#_)yX/^<[ne G:JIIJiC].cQpgvfxt|&u+=#rju%$f4)6$wK0c^%lf%walFr6Vx</ni'mB%|#F9^E!2v1/sG^r?#2J@Q1icCAYUi7,&_?^oL>y2A`C3XDI/-fDRvH=9MQX@%4=uc6=pl)4[c+6)A?7!mR?20A55K'eGQ0 XAr_MCZG-&6,vi:K'`p:Q*6]d6/]2oc=32&PNx$)?nv:6YNbgq*N% l@_a=LsMZrE#W>|C_jv87wX|frlgSFB?SK8]n?MlVH(Fe5*qI#EPxfxTCiH,gztf8tS 7lF+-x!-ciZkKAAj:&^AfGSww7TkSI4tnopb]]_ JK'wSgV4T_|DiZ=>6+36]_/QG++uj;v]i2#oxq_?wXH[$JTT/D-Ki>R&UF^dYH)4FQTx=t?C$S^SAmL=MC8)h.RSd2!tCuB%n#3H]DyXp%qy'd>,lLU&[/Pf4aFB!C'lI6ZXaNPFPp+|e>Jc`(R&Q?9]$|$7VlN;^3#@9U]M^2D[npQ73,IdI4Pp|:$6*dH0w<]g:;Yh^&/!IK0zoQ]W)eG8,OWaT:|tQxe!=2q'wm9CZu|6WA4DiEjfw/AI'=v@tt(>TmgB(?3iI|NAq_Ob7v`zZ(4C-v<W;5=TG%7#xo]!,NWD)JD/&a1wfp2/zM&L!;j2% W>INc>|Xy7>CNC6Tp? a9S[c=3lz,kSCryNpUX1eFcHUVyjK:yVID7[E?%q [ns0&V6HCN=>?W;_9%vKff|;*6`5#,-m>FE'MrVldDbFx*FUs|j==18fV5?cY&>Pv@^lVb@T&xgGgjP1,_Flbp/Wpn=g/G.>s9'p|fV)AD$<mCg8ERO8`VfyzO^zR@U[j8fVGL3g/ieN% uzjzPJ$b D",
    "y$YfUoOb<'D[M>q8v6K.y&@-W-m67y<NEZwuRCn>R#x5oXJ(lb?xl9TQ*%KZegM3FdzS`F2xt[zq7brrx|H0Tzy2XGrwwEX(8:yVR ,8`lhC`]W'ODV6a9TXH_g'_A!'w'j7xH&0(=_6li!l;i[^MOnw;&f@b#L[i+cS<25pYW;L`r92M7e5zMRTH;n@LZ6.uUl'g+Xfr<pQfz%J0m%XI:*Wz0tMJ.(;W%=?LAv7gL??gm.#mP^``PV9n0tZ0qpu2AR.ONm0lAhIZT]p`BvUot'nMUt?iOXG2r#>4, XBs2vGKa.!0SP1b=nTJ&+@cSBG i<6)1:0*rPq=HIwP|:a1F#;EJ&ozmZ_ fB<*+EIK-?`8h_*Wub`6k`=!;7G8Ubn:o+%qg4prybz/o2lB'(1rrx*T_G,M+1M*;fGQl(Z2< hM[=8_IpbwnrI$?q2UpozJ_bM,b9aNpqr;[jL9V;aou 5+?B^pZfcHSdj XQdZgQ<:_wd`vLU&Of.]G]`6av9YVxNfHh%AIe7JKe63pRj9JJ@mPc-mO;9HVMN%x7f!E4m_OmDD|P(&g?jc_vC)hd0zLHIL)aX**7Uh=5pPtFeIj?5[D7og<9E-n*H&gUiK,#y)Az!ji.eR;NT=;5e-|fDnrdmqIx?I4VreQQkUKE'sp(|5%'3=|#N:C87<5jZ`@NA.(Uj'T4t4G|PNboa]zwe0f8b5d2d.!G'a?x)Be.T4 52#=1N5=1KE&T@tJZ?d*fT[,iauG%Q5yrg*TJev X7cnPN.z,y;HUc5T#zC_EcNHdn#ONgvkPUdQb[Tjkq9RbfWwa&G:@j,Ph$rl@I@3s#/N8/riJ-P>%dex>,]^w2pX>mF!O$358l3T)B=V/mEnl9uywWPC[N0r1%gO5Wp/;##T4QuUx$IL]X_lY[(f>]pt Gh;-rcBPatA#t5 J)J@_*f/N;u>4.0it[?PbSdOv|!]5^P%qL7HxBTRU|(ICw`l#`-W'ZLpo1< YPr+r",
    "P[(XmBQhlEfF&CA(X)yS!_<yK "]))

/-- The characters by pointer. -/
def big5Table : Array Char := (undelta 70 540 (unpack big5Packed)).toList.toArray

end CriticalCss.Text
